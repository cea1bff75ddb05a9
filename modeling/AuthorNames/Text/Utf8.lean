/-!
Text as bytes. Input lines, page bodies and command line arguments arrive as bytes that need not be
well-formed; a reader of one byte at a time turns them into characters and says where it could not.
The reader remembers nothing across a byte below `0x80`, so splitting at line feeds and decoding
can be done in either order.
-/

namespace AuthorNames.Text.Utf8

/-- The character put in place of a part that is not well-formed. -/
def replacement : Char := '\uFFFD'

/-- What the reader has seen of the character at hand: nothing, or a well-formed beginning that
stands for `value` so far, with `missing + 1` bytes to come of which the next has to lie between
`low` and `high`. The bounds are narrower than `80` to `BF` only after the four leads `E0`, `ED`,
`F0` and `F4`, which is what excludes overlong forms, surrogates and values above `10FFFF`. -/
inductive Progress where
  | fresh
  | within (missing : Nat) (low high : UInt8) (value : Nat)
  deriving DecidableEq, Repr

/-- What one byte completes: characters, with `none` for an ill-formed part. A byte that breaks
off a character ends that part and is read again on its own, so it can give two. -/
def start (byte : UInt8) : List (Option Char) × Progress :=
  let b := byte.toNat
  if b < 0x80 then ([some (Char.ofNat b)], .fresh)
  else if 0xC2 ≤ b ∧ b ≤ 0xDF then ([], .within 0 0x80 0xBF (b - 0xC0))
  else if b = 0xE0 then ([], .within 1 0xA0 0xBF 0)
  else if b = 0xED then ([], .within 1 0x80 0x9F (b - 0xE0))
  else if 0xE1 ≤ b ∧ b ≤ 0xEF then ([], .within 1 0x80 0xBF (b - 0xE0))
  else if b = 0xF0 then ([], .within 2 0x90 0xBF 0)
  else if 0xF1 ≤ b ∧ b ≤ 0xF3 then ([], .within 2 0x80 0xBF (b - 0xF0))
  else if b = 0xF4 then ([], .within 2 0x80 0x8F (b - 0xF0))
  else ([none], .fresh)

/-- One byte of input. -/
def feed : Progress → UInt8 → List (Option Char) × Progress
  | .fresh, byte => start byte
  | .within missing low high value, byte =>
    if low ≤ byte ∧ byte ≤ high then
      let value := value * 64 + (byte.toNat - 0x80)
      match missing with
      | 0 => ([some (Char.ofNat value)], .fresh)
      | missing + 1 => ([], .within missing 0x80 0xBF value)
    else
      let (parts, next) := start byte
      (none :: parts, next)

/-- A character broken off by the end of the input is one ill-formed part. -/
def finish : Progress → List (Option Char)
  | .fresh => []
  | .within .. => [none]

/-- The characters of the bytes, in order, with `none` for each maximal ill-formed part. -/
def partsFrom : Progress → List UInt8 → List (Option Char)
  | progress, [] => finish progress
  | progress, byte :: rest =>
    let (parts, next) := feed progress byte
    parts ++ partsFrom next rest

/-- `partsFrom` at the beginning of a text. -/
def parts (bytes : List UInt8) : List (Option Char) :=
  partsFrom .fresh bytes

/-- The characters of the bytes, each ill-formed part replaced by one U+FFFD. -/
def decodeLossy (bytes : List UInt8) : List Char :=
  (parts bytes).map (·.getD replacement)

/-- The characters of the bytes, if they are well-formed throughout. -/
def decode? (bytes : List UInt8) : Option (List Char) :=
  (parts bytes).mapM id

/-- The bytes of a text. -/
def encode (text : List Char) : List UInt8 :=
  text.flatMap String.utf8EncodeChar

/-- The bytes of a string. -/
def bytesOf (text : String) : List UInt8 :=
  encode text.toList

/-- The string of possibly ill-formed bytes, in the form messages quote them. -/
def display (bytes : List UInt8) : String :=
  String.ofList (decodeLossy bytes)

end AuthorNames.Text.Utf8
