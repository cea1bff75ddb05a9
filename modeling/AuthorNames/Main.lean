import AuthorNames.Program
/-!
The program at a terminal. It reads its whole input before it writes anything, and makes no
connection, so every page counts as one that cannot be had.
-/

namespace AuthorNames

open AuthorNames.Text

/-- What a path leads to on this machine. What is there and cannot be read counts as a directory. -/
def entryOf (path : String) : IO (Option FileEntry) := do
  try
    return some (.file (← IO.FS.readBinFile path).toList)
  catch fault =>
    match fault with
    | .noFileOrDirectory .. => return none
    | _ => return some .directory

/-- The directory for the settings of programs: one that is named from the root on, or else one in
the user's home, which is that of the user's account unless another is given. An empty name is none. -/
def configDirectory? (named home accountHome : Option String) : Option String :=
  let home := home.filter (· ≠ "") <|> accountHome.filter (· ≠ "")
  named.filter (·.startsWith "/") <|> home.map (· ++ "/.config")

/-- The number of the user in what the system tells of a process. -/
def userNumber? (status : String) : Option String :=
  (status.splitOn "\n").findSome? fun line =>
    match line.splitOn "\t" with
    | "Uid:" :: number :: _ => some number
    | _ => none

/-- The home of the user of a number in a list of accounts. -/
def homeOf? (accounts number : String) : Option String :=
  (accounts.splitOn "\n").findSome? fun line =>
    match line.splitOn ":" with
    | [_, _, listed, _, _, home, _] => if listed = number then some home else none
    | _ => none

/-- The home of the user's account, where the accounts are listed in the file for them. -/
def accountHome? : IO (Option String) := do
  try
    let number? := userNumber? (← IO.FS.readFile "/proc/self/status")
    return number?.bind (homeOf? (← IO.FS.readFile "/etc/passwd"))
  catch _ =>
    return none

/-- The user's directory for settings. -/
def userDirectory : IO (Option UserDirectory) := do
  let named ← IO.getEnv "XDG_CONFIG_HOME"
  match configDirectory? named (← IO.getEnv "HOME") (← accountHome?) with
  | some directory => return some ⟨← entryOf (directory ++ "/authormap/settings.json")⟩
  | none => return none

/-- The files that a command line can make use of. -/
def filesFor (arguments : List (List UInt8)) : IO Files := do
  let named? := match CommandLine.parse arguments with
    | .ok r => r.config
    | .error _ => none
  let namedEntry ← match named? with
    | some path => entryOf (Utf8.display path)
    | none => pure none
  return ⟨fun path => if some path = named? then namedEntry else none, ← userDirectory⟩

end AuthorNames

open AuthorNames

/-- Runs the program and returns its exit status. -/
def main (arguments : List String) : IO UInt32 := do
  let arguments := arguments.map Text.Utf8.bytesOf
  let files ← filesFor arguments
  let input ← (← IO.getStdin).readBinToEnd
  let ending := Program.run ⟨arguments, files, .unreachable, input.toList, ← IO.getEnv "RUST_LOG"⟩
  let stdout ← IO.getStdout
  stdout.write ⟨ending.records.toArray⟩
  stdout.flush
  for message in ending.messages do
    IO.eprintln message
  return UInt32.ofNat ending.exitCode
