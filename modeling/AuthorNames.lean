import AuthorNames.Directory
import AuthorNames.Main
import AuthorNames.Proofs.AcceptedSettings
import AuthorNames.Proofs.LinePerRecord
import AuthorNames.Proofs.LookupFailures
import AuthorNames.Proofs.LossyDecoding
import AuthorNames.Proofs.PolicySimulation
import AuthorNames.Proofs.SinkContents
import AuthorNames.Proofs.WordCollapse
import AuthorNames.Session
import AuthorNames.Stream
import AuthorNames.Proofs.InputDelivery
import AuthorNames.Proofs.SessionJournal
import AuthorNames.Proofs.BoundedRun
import AuthorNames.Json.Grammar
import AuthorNames.Proofs.EncodedText
import AuthorNames.Proofs.GivenOnce
import AuthorNames.Proofs.IgnoredValues
import AuthorNames.Proofs.SettingsAgreement
import AuthorNames.Proofs.SettingsLayers
import AuthorNames.Proofs.Loudness
import AuthorNames.Proofs.EventLog
import AuthorNames.Proofs.FinalReply
import AuthorNames.Proofs.ProgramEnding
import AuthorNames.Proofs.PercentEscapes
import AuthorNames.Proofs.ReadPaths
import AuthorNames.Proofs.PathText
import AuthorNames.Proofs.AddedSegment
import AuthorNames.Proofs.SharedPages
import AuthorNames.Proofs.BelowBase
import AuthorNames.Proofs.UntouchedParts
import AuthorNames.Proofs.EscapedName
import AuthorNames.Proofs.NameOrder
import AuthorNames.Proofs.DecodedLines
import AuthorNames.Proofs.PaddedLines
import AuthorNames.Proofs.WellFormedText
import AuthorNames.Proofs.JsonForm
import AuthorNames.Proofs.IgnoredForm
import AuthorNames.Proofs.SettingsForm
import AuthorNames.Proofs.SettingsList
import AuthorNames.Proofs.SettingsFile
import AuthorNames.Proofs.TidyNames
import AuthorNames.Proofs.OptionUnits
import AuthorNames.Proofs.PlainNames
import AuthorNames.Proofs.PlainUrls
import AuthorNames.Proofs.MessageLines
