/-!
Properties of characters as step functions. A property is written as the code points at which its
value changes, `41:L 5B:ON ...`, and looked up by halving; that keeps a table of the whole code
space to a few hundred entries that can be read off the published data.
-/

namespace AuthorNames.Unicode

/-- The value of a hexadecimal digit, in either case. -/
def hexDigit? (c : Char) : Option Nat :=
  if '0' ≤ c ∧ c ≤ '9' then some (c.toNat - '0'.toNat)
  else if 'A' ≤ c ∧ c ≤ 'F' then some (c.toNat - 'A'.toNat + 10)
  else if 'a' ≤ c ∧ c ≤ 'f' then some (c.toNat - 'a'.toNat + 10)
  else none

/-- The number that hexadecimal digits write; anything else among them counts as nothing. -/
def hexValue (digits : List Char) : Nat :=
  digits.foldl (fun value c => match hexDigit? c with
    | some d => value * 16 + d
    | none => value) 0

/-- The pieces of a list between the elements that satisfy the predicate. -/
def splitWhere (separates : Char → Bool) (text : List Char) : List (List Char) :=
  text.foldr (fun c pieces =>
    if separates c then [] :: pieces
    else match pieces with
      | [] => [[c]]
      | piece :: rest => (c :: piece) :: rest) [[]]

/-- The non-empty pieces of a table's text; its lines are broken wherever that suits the page. -/
def entries (table : String) : List (List Char) :=
  (splitWhere (fun c => c == ' ' || c == '\n') table.toList).filter (· ≠ [])

/-- A property of code points: `values[i]` holds from `starts[i]` up to the next start. -/
structure StepTable where
  starts : Array Nat
  values : Array String

namespace StepTable

/-- Reads `start:value` entries, in rising order of their starts. -/
def parse (table : String) : StepTable :=
  let rows := (entries table).map fun entry =>
    (hexValue (entry.takeWhile (· ≠ ':')), String.ofList ((entry.dropWhile (· ≠ ':')).drop 1))
  ⟨(rows.map (·.1)).toArray, (rows.map (·.2)).toArray⟩

/-- The last of the starts between positions `low` and `high` that is at most `n`, by halving; the
first argument bounds the number of halvings. -/
def locate (starts : Array Nat) (n : Nat) : Nat → Nat → Nat → Nat
  | 0, low, _ => low
  | steps + 1, low, high =>
    if high ≤ low + 1 then low
    else
      let middle := (low + high) / 2
      if starts.getD middle 0 ≤ n then locate starts n steps middle high
      else locate starts n steps low middle

/-- The start of the stretch that holds `n`, and the value on it. -/
def lookup (table : StepTable) (n : Nat) : Nat × String :=
  let i := locate table.starts n 32 0 table.starts.size
  (table.starts.getD i 0, table.values.getD i "")

/-- The value of the property at a character. -/
def valueAt (table : StepTable) (c : Char) : String :=
  (table.lookup c.toNat).2

end StepTable

end AuthorNames.Unicode
