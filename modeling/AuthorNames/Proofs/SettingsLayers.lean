import AuthorNames.Proofs.SettingsAgreement

/-! Where each setting comes from. The command line goes over the file and the
file over the defaults, one setting at a time, and nothing is checked before
that is done: what a run goes by is a function of the values in force alone, so
a value that another goes over may be anything. Only the file itself has to be
readable, whether or not any of its values is in force. -/
namespace AuthorNames.SettingsLayers
open AuthorNames.CommandLine AuthorNames.Text.Utf8 AuthorNames.SettingsAgreement AuthorNames.SettingsText
open AuthorNames.AcceptedSettings

/-- The values of the settings in force. -/
structure InForce where
  baseUrl : String
  domain : String
  policy : MissingNamePolicy
  /-- How many seconds a request may take, `none` for as long as it likes. -/
  timeout : Option UInt64
  deriving DecidableEq, Repr

/-- The command line's value if it gives one, or else the file's if that does,
or else the default. -/
def layered {α : Type} (flag file : Option α) (default : α) : α :=
  match flag, file with
  | some value, _ => value
  | none, some value => value
  | none, none => default

/-- The values in force under a request and the settings of a file. -/
def inForce (r : Request) (s : Settings) : InForce where
  baseUrl := layered r.baseUrl s.baseUrl "http://sourceforge.net/users/"
  domain := layered r.domain s.addressDomain "users.sourceforge.net"
  policy := layered r.onMissingName s.onMissingName .abort
  timeout := layered (r.timeout.map some) (s.timeoutSecs.map some) none

/-- What a run goes by under these values, or the first of them that cannot be
used. -/
def judged (v : InForce) : Except Failure Context :=
  match Url.parse (Text.trim v.baseUrl) with
  | .error fault => .error (.url fault)
  | .ok base =>
    if base.isOpaque then .error (.config (.opaqueBase v.baseUrl))
    else if v.timeout = some 0 then .error .zeroTimeout
    else if (Text.trim v.domain).isEmpty then .error (.config .blankDomain)
    else .ok ⟨base, v.timeout, Text.trim v.domain, v.policy⟩

/-- Two requests that ask for the same settings. The files that they name and
how much they say may differ. -/
def SameFlags (first second : Request) : Prop :=
  second = { first with config := second.config, verbosity := second.verbosity }

/-- The settings of two files that agree wherever a request gives none. -/
structure AgreeBelow (r : Request) (first second : Settings) : Prop where
  baseUrl : r.baseUrl = none → first.baseUrl = second.baseUrl
  addressDomain : r.domain = none → first.addressDomain = second.addressDomain
  onMissingName : r.onMissingName = none → first.onMissingName = second.onMissingName
  timeoutSecs : r.timeout = none → first.timeoutSecs = second.timeoutSecs

/-- A source that no settings can be had from, and why. Only a file that is
named has to be there. -/
inductive Unloadable (files : Files) : Option (List UInt8) → Failure → Prop where
  | absent {path : List UInt8} (missing : files.entryAt path = none) :
      Unloadable files (some path) (.config (.noSettingsFile (display path)))
  | directory {config : Option (List UInt8)} (held : source files config = some .directory) :
      Unloadable files config (.io .isDirectory)
  | notText {config : Option (List UInt8)} {content : List UInt8}
      (held : source files config = some (.file content)) (malformed : decode? content = none) :
      Unloadable files config (.io .notUtf8)
  | notSettings {config : Option (List UInt8)} {content : List UInt8} {text : List Char} {fault : Json.Fault}
      (held : source files config = some (.file content)) (decoded : decode? content = some text)
      (refused : Settings.ofText (String.ofList text) = .error fault) :
      Unloadable files config (.json fault)

variable {files : Files} {config : Option (List UInt8)} {r r' : Request} {found found' : Settings}
  {failure : Failure} {arguments : List (List UInt8)}

theorem layered_overridden {α : Type} {flag file file' : Option α} (same : flag = none → file = file')
    (default : α) : layered flag file default = layered flag file' default := by
  cases flag with
  | none => rw [same rfl]
  | some value => rfl

theorem layered_orElse {α : Type} (flag file : Option α) (default : α) :
    (flag <|> file).getD default = layered flag file default := by
  cases flag with
  | some value => rfl
  | none => cases file <;> rfl

/-- Layered first and checked then, as one function of the values in force. -/
theorem ofSettings_overlay (r : Request) (found : Settings) :
    Context.ofSettings (Context.overlay found r) = judged (inForce r found) := by
  have base : (Context.overlay found r).baseUrl.getD Settings.defaultBaseUrl = (inForce r found).baseUrl :=
    layered_orElse r.baseUrl found.baseUrl _
  have domain : (Context.overlay found r).addressDomain.getD Settings.defaultAddressDomain =
      (inForce r found).domain := layered_orElse r.domain found.addressDomain _
  have policy : (Context.overlay found r).policy = (inForce r found).policy :=
    layered_orElse r.onMissingName found.onMissingName _
  have timeout : (Context.overlay found r).timeoutSecs = (inForce r found).timeout := by
    unfold Context.overlay inForce
    cases r.timeout with
    | some seconds => rfl
    | none => cases found.timeoutSecs <;> rfl
  unfold Context.ofSettings Settings.base Settings.timeout Settings.domain judged
  rw [base, domain, policy, timeout]
  dsimp only
  cases Url.parse (Text.trim (inForce r found).baseUrl) with
  | error fault => rfl
  | ok url =>
    by_cases opens : url.isOpaque
    · simp only [opens, ↓reduceIte]
      rfl
    · by_cases zero : (inForce r found).timeout = some 0
      · simp only [opens, zero, ↓reduceIte]
        rfl
      · by_cases blank : (Text.trim (inForce r found).domain).isEmpty
        · simp only [opens, zero, blank, ↓reduceIte]
          rfl
        · simp only [opens, zero, blank, ↓reduceIte]
          rfl

/-- Where the settings agree below the command line, the same values are in
force. -/
theorem inForce_congr (same : SameFlags r r') (agree : AgreeBelow r found found') :
    inForce r found = inForce r' found' := by
  rw [same]
  unfold inForce
  rw [layered_overridden agree.baseUrl, layered_overridden agree.addressDomain,
    layered_overridden agree.onMissingName]
  congr 1
  apply layered_overridden
  intro unset
  rw [agree.timeoutSecs (by simpa using unset)]

/-- Settings cannot be had exactly from the sources that are unloadable. -/
theorem find_error_iff : Settings.find files config = .error failure ↔ Unloadable files config failure := by
  constructor
  · intro failed
    cases held : source files config with
    | none =>
      cases config with
      | some path =>
        have missing : files.entryAt path = none := held
        simp only [Settings.find, Settings.locate, missing] at failed
        cases failed
        exact .absent missing
      | none =>
        have missing : files.userSettings = none := held
        rw [find_own, missing] at failed
        cases failed
    | some content =>
      rw [find_held held] at failed
      cases content with
      | directory =>
        cases failed
        exact .directory held
      | file content =>
        rw [Settings.ofEntry] at failed
        split at failed
        · rename_i malformed
          cases failed
          exact .notText held malformed
        · rename_i text decoded
          split at failed
          · rename_i fault refused
            cases failed
            exact .notSettings held decoded refused
          · cases failed
  · rintro (⟨missing⟩ | ⟨held⟩ | ⟨held, malformed⟩ | ⟨held, decoded, refused⟩)
    · simp only [Settings.find, Settings.locate, missing]
    · rw [find_held held]
      rfl
    · rw [find_held held, Settings.ofEntry, malformed]
    · rw [find_held held, Settings.ofEntry, decoded]
      simp only [refused]

theorem bootstrap_found (parsed : parse arguments = .ok r) (loaded : Settings.find files r.config = .ok found) :
    bootstrap files arguments = .ok (judged (inForce r found)) := by
  rw [bootstrap_of_found parsed loaded rfl, ofSettings_overlay]

theorem bootstrap_unloadable (parsed : parse arguments = .ok r)
    (unloadable : Unloadable files r.config failure) : bootstrap files arguments = .ok (.error failure) := by
  rw [bootstrap, parsed, Except.map, ofRequest_of_missing (find_error_iff.mpr unloadable)]

/-- **Settings are layered one by one.** What a run goes by is what the values
in force come to: for each setting the command line's value, or else the one of
the file, where it is present and not `null`, or else the default. Two files
whose settings agree wherever the command line gives none lead to the same
context or the same failure, whatever else they hold. A file that cannot be read
as settings fails the run under any flags. -/
theorem settings_are_layered (parsed : parse arguments = .ok r) :
    (∀ found, Settings.find files r.config = .ok found →
      bootstrap files arguments = .ok (judged (inForce r found))) ∧
    (∀ (s : Settings) (text : List Char), Writes s text →
      source files r.config = some (.file (encode text)) → Settings.find files r.config = .ok s) ∧
    (∀ (files' : Files) (arguments' : List (List UInt8)) (r' : Request) (found found' : Settings),
      parse arguments' = .ok r' → SameFlags r r' →
      Settings.find files r.config = .ok found → Settings.find files' r'.config = .ok found' →
      AgreeBelow r found found' → bootstrap files arguments = bootstrap files' arguments') ∧
    (∀ failure, Settings.find files r.config = .error failure ↔ Unloadable files r.config failure) ∧
    (∀ failure, Unloadable files r.config failure → bootstrap files arguments = .ok (.error failure)) := by
  refine ⟨?_, ?_, ?_, fun _ => find_error_iff, fun _ => bootstrap_unloadable parsed⟩
  · intro found loaded
    exact bootstrap_found parsed loaded
  · intro s text written held
    exact find_written written held
  · intro files' arguments' r' found found' parsed' same loaded loaded' agree
    rw [bootstrap_found parsed loaded, bootstrap_found parsed' loaded', inForce_congr same agree]

/-- Two files of which each holds values that cannot be used, and a directory. -/
def rejectedFiles : Files where
  entryAt path :=
    if path = bytesOf "a" then
      some (.file (bytesOf "\x7b\"base_url\":\"mailto:a\",\"timeout_secs\":0,\"address_domain\":\"d\"\x7d"))
    else if path = bytesOf "b" then
      some (.file (bytesOf "\x7b\"address_domain\":\"d\",\"base_url\":\" \",\"timeout_secs\":null\x7d"))
    else if path = bytesOf "c" then some .directory
    else none
  userDirectory := some ⟨none⟩

/-- The base URL and the timeout of either file are overridden, so neither is
looked at, and the domain is the file's; a directory is no settings file under
the same flags. -/
theorem settings_are_layered_over_rejected_values :
    let flags := [bytesOf "--base-url=x:/u", bytesOf "--timeout", bytesOf "5"]
    let base : Url := ⟨"x", none, .segments false ["u"], none, none⟩
    bootstrap rejectedFiles (bytesOf "--config=a" :: flags) =
        bootstrap rejectedFiles (bytesOf "--config=b" :: flags) ∧
      bootstrap rejectedFiles (bytesOf "--config=a" :: flags) = .ok (.ok ⟨base, some 5, "d", .abort⟩) ∧
      bootstrap rejectedFiles (bytesOf "--config=c" :: flags) = .ok (.error (.io .isDirectory)) := by
  intro flags base
  let asked (path : String) : Request := ⟨some "x:/u", none, none, some 5, some (bytesOf path), 0⟩
  have first : parse (bytesOf "--config=a" :: flags) = .ok (asked "a") := by decide +kernel
  have second : parse (bytesOf "--config=b" :: flags) = .ok (asked "b") := by decide +kernel
  have third : parse (bytesOf "--config=c" :: flags) = .ok (asked "c") := by decide +kernel
  have loaded : Settings.find rejectedFiles (asked "a").config = .ok ⟨some "mailto:a", some "d", none, some 0⟩ := by
    decide +kernel
  have loaded' : Settings.find rejectedFiles (asked "b").config = .ok ⟨some " ", some "d", none, none⟩ := by
    decide +kernel
  obtain ⟨inForce, -, agreeing, -⟩ := @settings_are_layered rejectedFiles _ _ first
  obtain ⟨-, -, -, -, failing⟩ := @settings_are_layered rejectedFiles _ _ third
  refine ⟨?_, ?_, failing _ (.directory rfl)⟩
  · apply agreeing rejectedFiles _ _ _ _ second rfl loaded loaded'
    constructor <;> intro unset
    · cases unset
    · rfl
    · rfl
    · cases unset
  · rw [inForce _ loaded]
    decide +kernel

end AuthorNames.SettingsLayers
