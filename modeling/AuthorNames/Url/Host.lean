import AuthorNames.Domain.AsciiName
import AuthorNames.Url.Percent
/-!
The host of a URL: a name, a numeric address of either kind, or, under schemes the program knows
nothing about, a text left as it is. A host whose last label is a number is an address or nothing.
-/

namespace AuthorNames.Url

open AuthorNames.Text (Utf8.decodeLossy)

/-- Why a text is not a URL. -/
inductive Fault where
  | noScheme | emptyHost | badPort | badIpv4 | badIpv6 | badHostCharacter | badDomain
  deriving DecidableEq, Repr

/-- The wording of a fault. -/
def Fault.message : Fault → String
  | .noScheme => "relative URL without a base"
  | .emptyHost => "empty host"
  | .badPort => "invalid port number"
  | .badIpv4 => "invalid IPv4 address"
  | .badIpv6 => "invalid IPv6 address"
  | .badHostCharacter => "invalid domain character"
  | .badDomain => "invalid international domain name"

/-- What a URL names as its host. -/
inductive Host where
  | none
  | name (text : String)
  | ipv4 (address : Nat)
  | ipv6 (pieces : List Nat)
  deriving DecidableEq, Repr

namespace Host

open AuthorNames.Unicode (splitWhere)

/-- The value of the digits in a base, if they are digits of it. -/
def digitsValue? (base : Nat) (digits : List Char) : Option Nat :=
  digits.foldl (fun value c => do
    let value ← value
    let d ← Percent.digitValue? c
    if d < base then some (value * base + d) else Option.none) (some 0)

/-- A part of an IPv4 address: decimal, octal behind a zero, or hexadecimal behind `0x`. -/
def ipv4Number? : List Char → Option Nat
  | [] => Option.none
  | '0' :: 'x' :: digits => digitsValue? 16 digits
  | '0' :: 'X' :: digits => digitsValue? 16 digits
  | '0' :: d :: digits => digitsValue? 8 (d :: digits)
  | digits => digitsValue? 10 digits

/-- The labels of a name, less an empty last one. -/
def labels (text : List Char) : List (List Char) :=
  let all := splitWhere (· == '.') text
  if all.length > 1 ∧ all.getLast? = some [] then all.dropLast else all

/-- Whether a name is meant as a numeric address: its last label is a number, or all figures. -/
def endsInNumber (text : List Char) : Bool :=
  match (labels text).getLast? with
  | some last => (!last.isEmpty && last.all Char.isDigit) || (ipv4Number? last).isSome
  | Option.none => false

/-- The bytes before the last number, each at its place. -/
def placeBytes : List Nat → Nat → Nat
  | [], _ => 0
  | b :: rest, place => b * Nat.pow 256 place + placeBytes rest (place - 1)

/-- An IPv4 address: up to four numbers of which the last fills all the places left. -/
def parseIpv4? (text : List Char) : Option Nat := do
  let numbers ← (labels text).mapM ipv4Number?
  let last ← numbers.getLast?
  let bytes := numbers.dropLast
  if bytes.length < 4 ∧ bytes.all (· < 256) ∧ last < Nat.pow 256 (4 - bytes.length) then
    some (placeBytes bytes 3 + last)
  else Option.none

/-- Four decimal numbers below 256 without leading zeros, as two pieces of an IPv6 address. -/
def ipv4Pieces? (text : List Char) : Option (List Nat) := do
  let numbers ← (splitWhere (· == '.') text).mapM fun digits =>
    if digits.isEmpty ∨ !digits.all Char.isDigit ∨ (digits.length > 1 ∧ digits.head? = some '0') then
      Option.none
    else (digitsValue? 10 digits).bind fun n => if n < 256 then some n else Option.none
  match numbers with
  | [a, b, c, d] => some [a * 256 + b, c * 256 + d]
  | _ => Option.none

/-- A stretch of an IPv6 address between its ends and its double colon; the last of its parts may be
an IPv4 address if nothing follows. -/
def ipv6Pieces? (mayEndInIpv4 : Bool) : List (List Char) → Option (List Nat)
  | [] => some []
  | [digits] =>
    if mayEndInIpv4 ∧ digits.contains '.' then ipv4Pieces? digits
    else if digits.isEmpty ∨ digits.length > 4 then Option.none
    else (digitsValue? 16 digits).map ([·])
  | digits :: rest => do
    if digits.isEmpty ∨ digits.length > 4 then Option.none
    else
      let piece ← digitsValue? 16 digits
      return piece :: (← ipv6Pieces? mayEndInIpv4 rest)

/-- Cuts a text at its first double colon. -/
def cutDoubleColon : List Char → Option (List Char × List Char)
  | ':' :: ':' :: rest => some ([], rest)
  | c :: rest => (cutDoubleColon rest).map fun (before, after) => (c :: before, after)
  | [] => Option.none

/-- The parts of a stretch; an empty stretch has none. -/
def colonParts (text : List Char) : List (List Char) :=
  if text.isEmpty then [] else splitWhere (· == ':') text

/-- An IPv6 address: eight pieces, of which a double colon may stand for one or more zeros. -/
def parseIpv6? (text : List Char) : Option (List Nat) :=
  match cutDoubleColon text with
  | Option.none => do
    let pieces ← ipv6Pieces? true (colonParts text)
    if pieces.length = 8 then some pieces else Option.none
  | some (before, after) => do
    let first ← ipv6Pieces? false (colonParts before)
    let second ← ipv6Pieces? true (colonParts after)
    let given := first.length + second.length
    if given < 8 then some (first ++ List.replicate (8 - given) 0 ++ second) else Option.none

/-- An address in brackets. -/
def parseBracketed (text : List Char) : Except Fault Host :=
  if text.getLast? = some ']' then
    match parseIpv6? ((text.drop 1).dropLast) with
    | some pieces => .ok (.ipv6 pieces)
    | Option.none => .error .badIpv6
  else .error .badIpv6

/-- The host under a scheme of the web. -/
def parse (text : List Char) : Except Fault Host :=
  if text.head? = some '[' then parseBracketed text
  else
    match Domain.asciiName (Utf8.decodeLossy (Percent.decode text)) with
    | Option.none => .error .badDomain
    | some ascii =>
      if ascii.isEmpty then .error .emptyHost
      else if endsInNumber ascii then
        match parseIpv4? ascii with
        | some address => .ok (.ipv4 address)
        | Option.none => .error .badIpv4
      else .ok (.name (String.ofList ascii))

/-- Characters that no host holds, under whatever scheme. -/
def isForbidden (c : Char) : Bool :=
  c == '\x00' || " \t\n\r#/:<>?@[\\]^|".toList.contains c

/-- The host under any other scheme. -/
def parseOpaque (text : List Char) : Except Fault Host :=
  if text.head? = some '[' then parseBracketed text
  else if text.any isForbidden then .error .badHostCharacter
  else if text.isEmpty then .ok .none
  else .ok (.name (String.ofList (Percent.encode Percent.controls text)))

/-- A number in decimal. -/
def decimal (n : Nat) : List Char :=
  Nat.toDigits 10 n

/-- The length of the run of zeros at the beginning of the pieces. -/
def zeroRun (pieces : List Nat) : Nat :=
  (pieces.takeWhile (· = 0)).length

/-- The place and length of the first among the longest runs of zeros. -/
def longestZeroRun : List Nat → Nat × Nat
  | [] => (0, 0)
  | piece :: rest =>
    let (place, length) := longestZeroRun rest
    let here := zeroRun (piece :: rest)
    if here ≥ length then (0, here) else (place + 1, length)

/-- Pieces with colons between them. -/
def pieceText (pieces : List Nat) : List Char :=
  (pieces.map (Nat.toDigits 16)).intersperse [':'] |>.flatten

/-- An IPv6 address as it is written: the first of the longest runs of two or more zeros becomes a
double colon. -/
def ipv6Text (pieces : List Nat) : List Char :=
  let (place, length) := longestZeroRun pieces
  if length < 2 then pieceText pieces
  else pieceText (pieces.take place) ++ [':', ':'] ++ pieceText (pieces.drop (place + length))

/-- The host as a URL shows it. -/
def text : Host → List Char
  | .none => []
  | .name s => s.toList
  | .ipv4 a =>
    decimal (a / 0x1000000) ++ ['.'] ++ decimal (a / 0x10000 % 256) ++ ['.'] ++
      decimal (a / 256 % 256) ++ ['.'] ++ decimal (a % 256)
  | .ipv6 pieces => ['['] ++ ipv6Text pieces ++ [']']

end Host

end AuthorNames.Url
