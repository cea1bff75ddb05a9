import AuthorNames.Account
import AuthorNames.Files
import AuthorNames.Settings.Reader
/-!
Where settings come from: a file that is named has to be there, the user's own file need not, nor a
directory for it.
-/

namespace AuthorNames.Settings

open AuthorNames.Text

/-- The settings in a file. -/
def ofEntry : FileEntry → Except Failure Settings
  | .directory => .error (.io .isDirectory)
  | .file content =>
    match Utf8.decode? content with
    | none => .error (.io .notUtf8)
    | some text =>
      match ofText (String.ofList text) with
      | .error fault => .error (.json fault)
      | .ok settings => .ok settings

/-- The settings in a file that need not be there. -/
def ofEntry? : Option FileEntry → Except Failure Settings
  | none => .ok .empty
  | some entry => ofEntry entry

/-- The settings in the file at a path, which need not be there. -/
def load (files : Files) (path : List UInt8) : Except Failure Settings :=
  ofEntry? (files.entryAt path)

/-- The user's directory for settings. -/
def discover (files : Files) : Except Failure UserDirectory :=
  match files.userDirectory with
  | none => .error (.config .noUserDirectory)
  | some directory => .ok directory

/-- The settings of a run, with what is told on the way to them: in the file that is named, or else
in the user's own. Without a directory for the user's own the run goes on with none, and says why. -/
def locate (files : Files) : Option (List UInt8) → Account Settings
  | some path =>
    match files.entryAt path with
    | none => ⟨[], .error (.config (.noSettingsFile (Utf8.display path)))⟩
    | some entry => ⟨[], ofEntry entry⟩
  | none =>
    match discover files with
    | .ok directory => ⟨[], ofEntry? directory.settings⟩
    | .error failure => ⟨[.told (.skippingSettings failure.message)], .ok .empty⟩

/-- The settings of a run. -/
def find (files : Files) (named : Option (List UInt8)) : Except Failure Settings :=
  (locate files named).result

end AuthorNames.Settings
