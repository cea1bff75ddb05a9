import AuthorNames.CommandLine.Basic
/-!
Reading a command line, one argument after the other. A value may be part of the argument that names
its option or be the next one; in the second case it is looked at only when the next option is
recognised, or at the end, so an argument that nobody knows is reported before a bad value in front
of it.
-/

namespace AuthorNames.CommandLine

open AuthorNames.Text

/-- An option whose value has not been looked at. -/
inductive Pending where
  | none
  | awaiting (option : ValueOption)
  | held (option : ValueOption) (value : List UInt8)
  deriving DecidableEq, Repr

/-- What has been read: the request so far, and the option at hand. -/
structure Progress where
  request : Request
  pending : Pending
  deriving DecidableEq, Repr

/-- Stops at a fault. -/
def refuse {α : Type} (fault : UsageFault) : Except Stop α :=
  .error (.fault fault)

/-- The value of a text as a number of 64 bits. A plus sign may stand in front. -/
def wholeNumber (text : List Char) : Except NumberFault UInt64 :=
  let digits := match text with
    | '+' :: rest => if rest.isEmpty then text else rest
    | _ => text
  if digits.isEmpty then .error .empty
  else
    let add := fun (n : Nat) (c : Char) =>
      if !c.isDigit then Except.error NumberFault.badDigit
      else if UInt64.size ≤ n * 10 then .error .tooLarge
      else if UInt64.size ≤ n * 10 + (c.toNat - 48) then .error .tooLarge
      else .ok (n * 10 + (c.toNat - 48))
    (digits.foldlM add 0).map UInt64.ofNat

/-- Whether the request has a value for the option. -/
def Request.has (r : Request) : ValueOption → Bool
  | .baseUrl => r.baseUrl.isSome
  | .domain => r.domain.isSome
  | .onMissingName => r.onMissingName.isSome
  | .timeout => r.timeout.isSome
  | .config => r.config.isSome

/-- The text of a value. -/
def textOf (value : List UInt8) : Except Stop (List Char) :=
  match Utf8.decode? value with
  | some text => .ok text
  | none => refuse .notUtf8

/-- The policy that a value names. -/
def policyOf (value : List UInt8) : Except Stop MissingNamePolicy :=
  if value.isEmpty then refuse (.noValue .onMissingName)
  else
    match Utf8.display value with
    | "abort" => .ok .abort
    | "fallback" => .ok .fallback
    | other => refuse (.unknownPolicy other)

/-- The request with a value for an option that has none yet. -/
def Request.put (r : Request) (option : ValueOption) (value : List UInt8) : Except Stop Request :=
  if r.has option then refuse (.repeated option)
  else
    match option with
    | .baseUrl => do return { r with baseUrl := some (String.ofList (← textOf value)) }
    | .domain => do return { r with domain := some (String.ofList (← textOf value)) }
    | .onMissingName => do return { r with onMissingName := some (← policyOf value) }
    | .timeout => do
      let text ← textOf value
      match wholeNumber text with
      | .ok seconds => return { r with timeout := some seconds }
      | .error fault => refuse (.badNumber (String.ofList text) fault)
    | .config => if value.isEmpty then refuse (.noValue .config) else .ok { r with config := some value }

/-- The request with the option at hand looked at. -/
def Progress.resolve (p : Progress) : Except Stop Request :=
  match p.pending with
  | .none => .ok p.request
  | .awaiting option => refuse (.noValue option)
  | .held option value => p.request.put option value

/-- A switch. -/
def Progress.turnOn (p : Progress) (switch : Switch) (isLong : Bool) : Except Stop Progress := do
  let r ← p.resolve
  match switch with
  | .help => .error (.help isLong)
  | .version => .error .version
  | .verbose =>
    let verbosity := if r.verbosity = 255 then 255 else r.verbosity + 1
    return ⟨{ r with verbosity }, .none⟩

/-- The byte of an ASCII character. -/
def byte (c : Char) : UInt8 :=
  UInt8.ofNat c.toNat

/-- An argument that begins with two hyphens, without them. -/
def Progress.readLong (p : Progress) (argument : List UInt8) : Except Stop Progress :=
  let name := argument.takeWhile (· ≠ byte '=')
  let value := (argument.dropWhile (· ≠ byte '=')).drop 1
  let hasValue := name.length < argument.length
  let isNamed := fun flag : String => Utf8.bytesOf flag = byte '-' :: byte '-' :: name
  match ValueOption.all.find? (isNamed ·.flag) with
  | some option => do
    let r ← p.resolve
    if hasValue then return ⟨← r.put option value, .none⟩
    else return ⟨r, .awaiting option⟩
  | none =>
    match Switch.all.find? (isNamed ·.flag) with
    | some switch =>
      if hasValue then refuse (.unexpectedValue (Utf8.display value) switch) else p.turnOn switch true
    | none => refuse (.unexpected ("--" ++ Utf8.display name))

/-- The letters behind a single hyphen, as far as the argument is well-formed; an ill-formed rest is
one unknown switch. -/
def Progress.readShort (p : Progress) : List (Option Char) → List UInt8 → Except Stop Progress
  | [], _ => .ok p
  | none :: _, bytes => refuse (.unexpected ("-" ++ Utf8.display bytes))
  | some c :: rest, bytes =>
    match Switch.ofLetter? c with
    | some switch => do (← p.turnOn switch false).readShort rest (bytes.drop c.utf8Size)
    | none => refuse (.unexpected (String.ofList ['-', c]))

/-- An argument that is not an option: the value of the option at hand, or too much. -/
def Progress.readValue (p : Progress) (argument : List UInt8) : Except Stop Progress :=
  match p.pending with
  | .awaiting option => .ok { p with pending := .held option argument }
  | _ => refuse (.unexpected (Utf8.display argument))

/-- One argument. -/
def Progress.read (p : Progress) (argument : List UInt8) : Except Stop Progress :=
  match argument with
  | first :: rest =>
    if first ≠ byte '-' ∨ rest.isEmpty then p.readValue argument
    else if rest.head? = some (byte '-') then p.readLong (rest.drop 1)
    else p.readShort (Utf8.parts rest) rest
  | [] => p.readValue argument

/-- Arguments up to the end, or up to one that is two hyphens: nothing may follow that. -/
def Progress.readAll (p : Progress) : List (List UInt8) → Except Stop Request
  | [] => p.resolve
  | argument :: rest =>
    if argument = [byte '-', byte '-'] then
      match rest with
      | [] => p.resolve
      | extra :: _ => refuse (.unexpected (Utf8.display extra))
    else do (← p.read argument).readAll rest

/-- What a command line asks for. -/
def parse (arguments : List (List UInt8)) : Except Stop Request :=
  Progress.readAll ⟨.empty, .none⟩ arguments

end AuthorNames.CommandLine
