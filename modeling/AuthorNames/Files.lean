/-!
Files as a run meets them: what a path leads to, and the settings file that a user keeps for every
run.
-/

namespace AuthorNames

/-- A thing that a path leads to. -/
inductive FileEntry where
  | file (content : List UInt8)
  | directory
  deriving DecidableEq, Repr

/-- The directory in which a user keeps settings, known by the settings file in it. -/
structure UserDirectory where
  settings : Option FileEntry
  deriving DecidableEq, Repr

/-- The files of a run. A path is any bytes; `none` stands for nothing there. A user need not have a
directory for settings. -/
structure Files where
  entryAt : List UInt8 → Option FileEntry
  userDirectory : Option UserDirectory

/-- The user's own settings file, if there is one. -/
def Files.userSettings (files : Files) : Option FileEntry :=
  files.userDirectory.bind UserDirectory.settings

end AuthorNames
