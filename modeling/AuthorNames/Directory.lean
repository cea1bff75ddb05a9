import AuthorNames.Files
/-!
A working directory and the paths into it. A name leads into a directory, one dot stays and two dots
lead out of it, and what lies outside the working directory is known only to be there.
-/

namespace AuthorNames

/-- The names on the way from the working directory to an entry, outermost first. -/
abbrev FileTrail := List (List UInt8)

/-- The entries of a working directory. The directories that lead to an entry need none of their
own. -/
structure Directory where
  entries : List (FileTrail × FileEntry)
  deriving DecidableEq, Repr

namespace Directory

/-- The pieces of a path between its slashes. -/
def pieces (path : List UInt8) : List (List UInt8) :=
  path.foldr (fun b pieces =>
    if b = 47 then [] :: pieces
    else match pieces with
      | [] => [[b]]
      | piece :: rest => (b :: piece) :: rest) [[]]

/-- Where a path has led so far: to an entry of the working directory, or that many directories
above it. -/
inductive Spot where
  | inside (trail : FileTrail)
  | above (height : Nat)
  deriving DecidableEq, Repr

/-- What is at the end of a trail. -/
def entryAt? (d : Directory) (trail : FileTrail) : Option FileEntry :=
  match d.entries.find? fun e => e.1 = trail with
  | some (_, entry) => some entry
  | none =>
    if trail.isEmpty ∨ d.entries.any fun e => trail.isPrefixOf e.1 then some .directory else none

/-- Whether a directory is there. -/
def isDirectory (d : Directory) : Spot → Bool
  | .inside trail => d.entryAt? trail = some .directory
  | .above _ => true

/-- One piece further along a path; every piece but the first needs a directory to start from. -/
def follow (d : Directory) (spot : Spot) (piece : List UInt8) : Option Spot :=
  if !d.isDirectory spot then none
  else if piece = [] ∨ piece = [46] then some spot
  else if piece = [46, 46] then
    match spot with
    | .inside [] => some (.above 1)
    | .inside trail => some (.inside trail.dropLast)
    | .above height => some (.above (height + 1))
  else
    match spot with
    | .inside trail => some (.inside (trail ++ [piece]))
    | .above _ => none

/-- What a path leads to, `none` if nothing is there. A path from the root is followed no further
than to the root itself. -/
def find? (d : Directory) (path : List UInt8) : Option FileEntry :=
  if path.isEmpty ∨ path.contains 0 then none
  else if path.head? = some 47 then
    if (pieces path).all fun piece => piece = [] ∨ piece = [46] ∨ piece = [46, 46] then some .directory
    else none
  else
    match (pieces path).foldlM d.follow (.inside []) with
    | some (.inside trail) => d.entryAt? trail
    | some (.above _) => some .directory
    | none => none

/-- The files of a run in the directory, of a user who has a directory for settings. -/
def files (d : Directory) (userSettings : Option FileEntry) : Files :=
  ⟨d.find?, some ⟨userSettings⟩⟩

end Directory

end AuthorNames
