import AuthorNames.Proofs.AcceptedSettings
import AuthorNames.Proofs.SettingsText
import AuthorNames.Proofs.ValueFlags

/-! It makes no difference whether settings stand in a file or on the command
line: the file's reader and the command line's come to the same settings, and
only those are looked at. -/
namespace AuthorNames.SettingsAgreement
open AuthorNames.CommandLine AuthorNames.Text.Utf8 AuthorNames.EncodedText AuthorNames.AcceptedSettings
open AuthorNames.SettingsText AuthorNames.ValueFlags AuthorNames.Json.Grammar

/-- What settings are read from: the file that is named, or else the user's own. -/
def source (files : Files) : Option (List UInt8) → Option FileEntry
  | some path => files.entryAt path
  | none => files.userSettings

/-- Nothing is set by a file: the user has none, or it gives nothing. -/
def Vacant (files : Files) (config : Option (List UInt8)) : Prop :=
  config = none ∧ files.userSettings = none ∨
    ∃ text, Writes .empty text ∧ source files config = some (.file (encode text))

variable {s : Settings} {files : Files} {config : Option (List UInt8)} {text : List Char}

theorem ofEntry_written (written : Writes s text) : Settings.ofEntry (.file (encode text)) = .ok s := by
  rw [Settings.ofEntry, decode?_encode]
  simp only [ofText_written written]

/-- Where no file is named the user's own is read, if there is one. -/
theorem find_own (files : Files) : Settings.find files none = Settings.ofEntry? files.userSettings := by
  unfold Settings.find Settings.locate Settings.discover Files.userSettings
  cases files.userDirectory <;> rfl

/-- What there is to read is read, whether it is named or the user's own. -/
theorem find_held {content : FileEntry} (held : source files config = some content) :
    Settings.find files config = Settings.ofEntry content := by
  cases config with
  | some path =>
    rw [source] at held
    simp only [Settings.find, Settings.locate, held]
  | none =>
    rw [source] at held
    rw [find_own, held]
    rfl

/-- The settings of a file are those that its text gives. -/
theorem find_written (written : Writes s text) (held : source files config = some (.file (encode text))) :
    Settings.find files config = .ok s := by
  rw [find_held held, ofEntry_written written]

theorem find_vacant (vacant : Vacant files config) : Settings.find files config = .ok .empty := by
  rcases vacant with ⟨rfl, missing⟩ | ⟨text, written, held⟩
  · rw [find_own, missing]
    rfl
  · exact find_written written held

/-- What a run goes by, from its files and its arguments: a context, a failure,
or no run at all. -/
def bootstrap (files : Files) (arguments : List (List UInt8)) : Except Stop (Except Failure Context) :=
  (parse arguments).map (Context.ofRequest files)

variable {options : List Passed} {arguments : List (List UInt8)}

theorem bootstrap_of_found {r : Request} {given : Settings} (parsed : parse arguments = .ok r)
    (found : Settings.find files r.config = .ok given) (overlaid : Context.overlay given r = s) :
    bootstrap files arguments = .ok (Context.ofSettings s) := by
  rw [bootstrap, parsed, Except.map, ofRequest_of_found found, overlaid]

/-- Settings of a file, when the command line gives none. -/
theorem bootstrap_file (written : Writes s text) (held : source files config = some (.file (encode text)))
    (unset : Passing .empty config options) (passed : Arguments options arguments) :
    bootstrap files arguments = .ok (Context.ofSettings s) := by
  obtain ⟨verbosity, parsed⟩ := parse_arguments unset passed
  exact bootstrap_of_found parsed (find_written written held) rfl

/-- Settings of a command line, when there is no file that gives any. -/
theorem bootstrap_flags (vacant : Vacant files config) (passing : Passing s config options)
    (passed : Arguments options arguments) : bootstrap files arguments = .ok (Context.ofSettings s) := by
  obtain ⟨verbosity, parsed⟩ := parse_arguments passing passed
  have whole {α : Type} (value : Option α) : (value <|> none) = value := by cases value <;> rfl
  refine bootstrap_of_found parsed (find_vacant vacant) ?_
  simp only [Context.overlay, Settings.empty, whole]

/-- **Settings in a file and on the command line agree.** A run whose command
line gives no setting and whose settings file gives some, however its text is
laid out, comes to the same context as a run without such a file whose command
line gives the same settings in any order, or it fails with the same failure. -/
theorem file_agrees_with_flags (written : Writes s text)
    (held : source files config = some (.file (encode text)))
    (unset : Passing .empty config options) (passed : Arguments options arguments)
    {files' : Files} {config' : Option (List UInt8)} {options' : List Passed} {arguments' : List (List UInt8)}
    (vacant : Vacant files' config') (passing : Passing s config' options')
    (passed' : Arguments options' arguments') :
    bootstrap files arguments = bootstrap files' arguments' ∧
      bootstrap files' arguments' = .ok (Context.ofSettings s) := by
  have flags := bootstrap_flags vacant passing passed'
  exact ⟨(bootstrap_file written held unset passed).trans flags.symm, flags⟩

/-- Settings of which one needs a character beyond sixteen bits. -/
def clefSettings : Settings :=
  ⟨some "x:/𝄞", none, none, some 7⟩

/-- The text of its base URL, with a slash escaped and the clef in halves. -/
def clefUrl : List (List Char) :=
  [['x'], [':'], ['\\', '/'], "\\ud834\\uDD1E".toList]

/-- A text of these settings: the members in another order, one of them `null`
and one of them of a name that does not count. -/
def clefText : List Char :=
  "\x7b\"timeout_secs\":7,\"more\":[\x7b\x7d], \"base_url\":".toList ++ quoted clefUrl ++
    ",\"address_domain\" :null\x7d\n".toList

def clefMembers : List Member :=
  [("timeout_secs", ['7']), ("more", "[\x7b\x7d]".toList), ("base_url", quoted clefUrl),
    ("address_domain", "null".toList)]

theorem clefUrl_spelled : List.Forall₂ Spells "x:/𝄞".toList clefUrl := by
  have high : Unit16 (0xD800 + 0x34) ['d', '8', '3', '4'] :=
    .digits (a := 13) (b := 8) (c := 3) (d := 4) (by decide) (by decide) (by decide) (by decide)
  have low : Unit16 (0xDC00 + 0x11E) ['D', 'D', '1', 'E'] :=
    .digits (a := 13) (b := 13) (c := 1) (d := 14) (by decide) (by decide) (by decide) (by decide)
  exact .cons (.plain (by decide)) (.cons (.plain (by decide)) (.cons (.short (by decide))
    (.cons (.paired (by decide) (by decide) (by decide) high low) .nil)))

theorem clefMembers_give : Giving clefSettings clefMembers where
  baseUrl := ⟨_, ⟨clefUrl, clefUrl_spelled, rfl⟩, by decide⟩
  addressDomain := .inr (by decide)
  onMissingName := .inl (by decide)
  timeoutSecs := ⟨['7'], ⟨⟨⟨by simp, by simp⟩, by simp⟩, by decide⟩, by decide⟩
  others := by
    have nothing : Blanks [] := by decide
    have object : Value "\x7b\x7d".toList := @Formed.empty .object [] nothing
    have inside : Formed (.entries .list) "\x7b\x7d".toList := .last (.item object) nothing
    intro m member uncounted
    have isMore : m = ("more", "[\x7b\x7d]".toList) := by
      simp only [clefMembers, List.mem_cons, List.not_mem_nil, or_false] at member
      rcases member with rfl | rfl | rfl | rfl
      · exact absurd uncounted (by decide)
      · rfl
      · exact absurd uncounted (by decide)
      · exact absurd uncounted (by decide)
    subst isMore
    exact .full nothing inside

theorem clefText_written : Writes clefSettings clefText := by
  have nothing : Blanks [] := by decide
  have space : Blanks [' '] := by decide
  have feed : Blanks ['\n'] := by decide
  have members : MembersOf clefMembers _ :=
    .more (.written (stringOf_plain (by decide)) nothing nothing) nothing nothing
      (.more (.written (stringOf_plain (by decide)) nothing nothing) nothing space
        (.more (.written (stringOf_plain (by decide)) nothing nothing) nothing nothing
          (.last (.written (stringOf_plain (by decide)) space nothing) nothing)))
  have written := Writes.object nothing (.full nothing members) clefMembers_give feed
  refine Eq.mp (congrArg (Writes clefSettings) ?_) written
  decide

/-- No file but one that can be named. -/
def clefFiles : Files :=
  ⟨fun path => if path = bytesOf "s" then some (.file (encode clefText)) else none, some ⟨none⟩⟩

/-- No file but the user's own, which gives nothing. -/
def emptyFiles : Files :=
  ⟨fun _ => none, some ⟨some (.file (encode "\x7b \x7d\n".toList))⟩⟩

theorem emptyFiles_vacant : Vacant emptyFiles none := by
  have nothing : Blanks [] := by decide
  have space : Blanks [' '] := by decide
  have feed : Blanks ['\n'] := by decide
  exact .inr ⟨_, writes_empty nothing space feed, rfl⟩

/-- A file that a command line names behind a switch, and the same settings as
options, the number with a zero in front and the value of one an argument of
its own. -/
theorem file_agrees_with_flags_of_clef :
    bootstrap clefFiles [bytesOf "-v", bytesOf "--config", bytesOf "s"] =
        bootstrap emptyFiles [bytesOf "--timeout=07", bytesOf "--base-url", bytesOf "x:/𝄞"] ∧
      bootstrap emptyFiles [bytesOf "--timeout=07", bytesOf "--base-url", bytesOf "x:/𝄞"] =
        .ok (Context.ofSettings clefSettings) := by
  have named : Passing .empty (some (bytesOf "s")) [(.config, bytesOf "s")] :=
    ⟨rfl, rfl, rfl, rfl, _, ⟨rfl, by decide⟩, rfl⟩
  have set : Passing clefSettings none [(.timeout, encode ['0', '7']), (.baseUrl, bytesOf "x:/𝄞")] :=
    ⟨⟨_, rfl, rfl⟩, rfl, rfl, ⟨_, ⟨['0', '7'], ⟨by simp, by simp⟩, by decide, rfl⟩, rfl⟩, rfl⟩
  have first : Arguments [(.config, bytesOf "s")] [bytesOf "-v", bytesOf "--config", bytesOf "s"] :=
    .louder (.short 0) (.apart (by decide) .none)
  have second : Arguments [(.timeout, encode ['0', '7']), (.baseUrl, bytesOf "x:/𝄞")]
      [bytesOf "--timeout=07", bytesOf "--base-url", bytesOf "x:/𝄞"] :=
    .joined (.apart (by decide) .none)
  exact file_agrees_with_flags clefText_written rfl named first emptyFiles_vacant set second

end AuthorNames.SettingsAgreement
