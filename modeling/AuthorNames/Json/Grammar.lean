import AuthorNames.Json.Skip
import Mathlib.Data.List.Forall2
/-!
What may be written, told without a reader: strings and the ways to escape their characters, whole
numbers, values of any depth, objects whose names matter, and lists whose items do. A value that
nobody asked for need only be well-formed, so a number in its strings may be half of a pair.
-/

namespace AuthorNames.Json.Grammar

/-- Characters that may stand between any two parts. -/
def Blanks (text : List Char) : Prop :=
  ∀ c ∈ text, c ∈ [' ', '\t', '\n', '\r']

instance (text : List Char) : Decidable (Blanks text) :=
  List.decidableBAll (· ∈ [' ', '\t', '\n', '\r']) text

/-- A digit of base sixteen, in either case. -/
def HexDigit (value : Nat) (c : Char) : Prop :=
  "0123456789abcdef".toList[value]? = some c ∨ "0123456789ABCDEF".toList[value]? = some c

instance (value : Nat) (c : Char) : Decidable (HexDigit value c) :=
  inferInstanceAs (Decidable (_ ∨ _))

/-- A number of sixteen bits in four digits. -/
inductive Unit16 : Nat → List Char → Prop where
  | digits {a b c d : Nat} {w x y z : Char} (first : HexDigit a w) (second : HexDigit b x)
      (third : HexDigit c y) (fourth : HexDigit d z) :
      Unit16 (((a * 16 + b) * 16 + c) * 16 + d) [w, x, y, z]

/-- The letters of short escapes, and what they stand for. -/
def shortEscapes : List (Char × Char) :=
  [('\x22', '\x22'), ('\\', '\\'), ('/', '/'), ('b', '\x08'), ('f', '\x0c'), ('n', '\n'), ('r', '\r'),
    ('t', '\t')]

/-- A character that stands for itself between quotes. -/
def Plain (c : Char) : Prop :=
  0x20 ≤ c.toNat ∧ c ≠ '\x22' ∧ c ≠ '\\'

instance (c : Char) : Decidable (Plain c) :=
  inferInstanceAs (Decidable (_ ∧ _ ∧ _))

/-- What is written for a character between quotes. -/
inductive Spells : Char → List Char → Prop where
  | plain {c : Char} (plain : Plain c) : Spells c [c]
  | short {letter c : Char} (listed : (letter, c) ∈ shortEscapes) : Spells c ['\\', letter]
  | numbered {c : Char} {digits : List Char} (number : Unit16 c.toNat digits) :
      Spells c ('\\' :: 'u' :: digits)
  /-- A character beyond sixteen bits, in two halves of ten bits each. -/
  | paired {c : Char} {high low : Nat} {digits digits' : List Char}
      (value : c.toNat = 0x10000 + high * 0x400 + low) (highBound : high < 0x400) (lowBound : low < 0x400)
      (first : Unit16 (0xD800 + high) digits) (second : Unit16 (0xDC00 + low) digits') :
      Spells c ('\\' :: 'u' :: (digits ++ '\\' :: 'u' :: digits'))

/-- What may stand between quotes where the characters do not matter. -/
inductive Filler : List Char → Prop where
  | plain {c : Char} (plain : Plain c) : Filler [c]
  | short {letter c : Char} (listed : (letter, c) ∈ shortEscapes) : Filler ['\\', letter]
  | numbered {value : Nat} {digits : List Char} (number : Unit16 value digits) :
      Filler ('\\' :: 'u' :: digits)

/-- Parts between quotes. -/
def quoted (parts : List (List Char)) : List Char :=
  '\x22' :: (parts.flatten ++ ['\x22'])

/-- A string, its characters written one by one. -/
def StringOf (s : String) (text : List Char) : Prop :=
  ∃ parts, List.Forall₂ Spells s.toList parts ∧ text = quoted parts

/-- A string without quotes, backslashes and controls may be written as it is. -/
theorem stringOf_plain {s : String} (plain : s.toList.all (fun c => decide (Plain c)) = true) :
    StringOf s ('\x22' :: (s.toList ++ ['\x22'])) := by
  refine ⟨s.toList.map fun c => [c], ?_, by rw [quoted, ← List.flatMap_def, List.flatMap_singleton']⟩
  rw [List.forall₂_map_right_iff, List.forall₂_same]
  exact fun c member => .plain (of_decide_eq_true (List.all_eq_true.mp plain c member))

/-- A string that need only be well-formed. -/
def AnyString (text : List Char) : Prop :=
  ∃ parts, (∀ part ∈ parts, Filler part) ∧ text = quoted parts

/-- Decimal digits, at least one. -/
def Digits (text : List Char) : Prop :=
  text ≠ [] ∧ ∀ c ∈ text, c.isDigit = true

/-- More digits never make a number smaller. -/
theorem le_ofDigitChars (value : Nat) (digits : List Char) : value ≤ Nat.ofDigitChars 10 digits value := by
  rw [Nat.ofDigitChars_eq_ofDigitChars_zero]
  exact Nat.le_add_right_of_le (Nat.le_mul_of_pos_left _ (Nat.pow_pos (by decide)))

/-- Digits without a zero in front. -/
def Whole (text : List Char) : Prop :=
  Digits text ∧ (text.head? = some '0' → text = ['0'])

/-- A whole number. -/
def NaturalOf (value : Nat) (text : List Char) : Prop :=
  Whole text ∧ Nat.ofDigitChars 10 text 0 = value

/-- The digits behind a point, if there are any. -/
inductive Fraction : List Char → Prop where
  | absent : Fraction []
  | present {digits : List Char} (formed : Digits digits) : Fraction ('.' :: digits)

/-- The power of ten behind a number, if there is one. -/
inductive Exponent : List Char → Prop where
  | absent : Exponent []
  | present {letter : Char} {sign digits : List Char} (lettered : letter ∈ ['e', 'E'])
      (signed : sign ∈ [[], ['+'], ['-']]) (formed : Digits digits) :
      Exponent (letter :: (sign ++ digits))

/-- A number without a sign. -/
inductive Unsigned : List Char → Prop where
  | parts {whole fraction exponent : List Char} (first : Whole whole) (second : Fraction fraction)
      (third : Exponent exponent) : Unsigned (whole ++ (fraction ++ exponent))

/-- A number of any form. -/
inductive Number : List Char → Prop where
  | positive {text : List Char} (unsigned : Unsigned text) : Number text
  | negative {text : List Char} (unsigned : Unsigned text) : Number ('-' :: text)

/-- The bracket in front of a list or an object. -/
def opening : Frame → Char
  | .list => '['
  | .object => '\x7b'

/-- The bracket behind it. -/
def closing : Frame → Char
  | .list => ']'
  | .object => '\x7d'

/-- What a text can be a part of: a value, one entry of a list or an object, or all its entries. -/
inductive Part where
  | value
  | entry (frame : Frame)
  | entries (frame : Frame)

/-- Values of any depth, and what stands between their brackets. -/
inductive Formed : Part → List Char → Prop where
  | word {text : List Char} (listed : text ∈ ["null".toList, "true".toList, "false".toList]) :
      Formed .value text
  | number {text : List Char} (number : Number text) : Formed .value text
  | string {text : List Char} (string : AnyString text) : Formed .value text
  | empty {frame : Frame} {blanks : List Char} (between : Blanks blanks) :
      Formed .value (opening frame :: (blanks ++ [closing frame]))
  | full {frame : Frame} {blanks text : List Char} (before : Blanks blanks)
      (inside : Formed (.entries frame) text) :
      Formed .value (opening frame :: (blanks ++ text ++ [closing frame]))
  | item {text : List Char} (value : Formed .value text) : Formed (.entry .list) text
  | member {name before after text : List Char} (named : AnyString name) (first : Blanks before)
      (second : Blanks after) (value : Formed .value text) :
      Formed (.entry .object) (name ++ before ++ ':' :: (after ++ text))
  | last {frame : Frame} {text blanks : List Char} (entry : Formed (.entry frame) text)
      (behind : Blanks blanks) : Formed (.entries frame) (text ++ blanks)
  | more {frame : Frame} {text before after rest : List Char} (entry : Formed (.entry frame) text)
      (first : Blanks before) (second : Blanks after) (others : Formed (.entries frame) rest) :
      Formed (.entries frame) (text ++ before ++ ',' :: (after ++ rest))

/-- A value of any kind. -/
abbrev Value (text : List Char) : Prop :=
  Formed .value text

/-- One member of an object: what its name stands for, and the text of its value. -/
abbrev Member := String × List Char

/-- A member as it is written. -/
inductive MemberOf : Member → List Char → Prop where
  | written {name : String} {spelled before after text : List Char} (named : StringOf name spelled)
      (first : Blanks before) (second : Blanks after) :
      MemberOf (name, text) (spelled ++ before ++ ':' :: (after ++ text))

/-- One or more members with commas between them, and blanks behind. -/
inductive MembersOf : List Member → List Char → Prop where
  | last {m : Member} {text blanks : List Char} (member : MemberOf m text) (behind : Blanks blanks) :
      MembersOf [m] (text ++ blanks)
  | more {m : Member} {ms : List Member} {text before after rest : List Char} (member : MemberOf m text)
      (first : Blanks before) (second : Blanks after) (others : MembersOf ms rest) :
      MembersOf (m :: ms) (text ++ before ++ ',' :: (after ++ rest))

/-- An object with these members in this order. -/
inductive ObjectOf : List Member → List Char → Prop where
  | empty {blanks : List Char} (between : Blanks blanks) : ObjectOf [] ('\x7b' :: (blanks ++ ['\x7d']))
  | full {ms : List Member} {blanks text : List Char} (before : Blanks blanks) (inside : MembersOf ms text) :
      ObjectOf ms ('\x7b' :: (blanks ++ text ++ ['\x7d']))

/-- What stands behind an item of a list, up to its end: these items, and the bracket. -/
inductive ItemsBehind : List (List Char) → List Char → Prop where
  | closed {blanks : List Char} (between : Blanks blanks) : ItemsBehind [] (blanks ++ [']'])
  | more {item before after rest : List Char} {items : List (List Char)} (first : Blanks before)
      (second : Blanks after) (others : ItemsBehind items rest) :
      ItemsBehind (item :: items) (before ++ ',' :: (after ++ (item ++ rest)))

/-- A list with these items in this order. -/
inductive ListOf : List (List Char) → List Char → Prop where
  | empty {blanks : List Char} (between : Blanks blanks) : ListOf [] ('[' :: (blanks ++ [']']))
  | full {item blanks rest : List Char} {items : List (List Char)} (before : Blanks blanks)
      (behind : ItemsBehind items rest) : ListOf (item :: items) ('[' :: (blanks ++ (item ++ rest)))

end AuthorNames.Json.Grammar
