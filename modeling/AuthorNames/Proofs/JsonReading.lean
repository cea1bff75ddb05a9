import AuthorNames.Json.Grammar

/-! Every text of the grammar is read, and read to its end: a reader in front of
it gives what it stands for and stops behind it, whatever follows. Only a number
needs to know what follows, since digits would go on with it. -/
namespace AuthorNames.JsonReading
open AuthorNames.Json AuthorNames.Json.Grammar AuthorNames.Json.Cursor

variable {t rest : List Char} {p : Position}

@[simp] theorem advance_nil : advance p [] = p := rfl

@[simp] theorem advance_cons (c : Char) : advance p (c :: t) = advance (p.past c) t := rfl

@[simp] theorem advance_append (a b : List Char) : advance p (a ++ b) = advance (advance p a) b :=
  List.foldl_append

@[simp] theorem next_cons (c : Char) : Cursor.next ⟨c :: t, p⟩ = ⟨t, p.past c⟩ := rfl

/-! Blanks. -/

theorem isBlank_iff {c : Char} : isBlank c = true ↔ c ∈ [' ', '\t', '\n', '\r'] := by
  simp only [isBlank, Bool.or_eq_true, beq_iff_eq, List.mem_cons, List.not_mem_nil, or_false]
  tauto

theorem skipBlanks_append {blanks : List Char} (between : Blanks blanks) :
    skipBlanks ⟨blanks ++ t, p⟩ = skipBlanks ⟨t, advance p blanks⟩ := by
  have all : ∀ c ∈ blanks, isBlank c = true := fun c member => isBlank_iff.mpr (between c member)
  simp only [skipBlanks, List.dropWhile_append_of_pos all, List.takeWhile_append_of_pos all,
    advance_append]

theorem skipBlanks_cons {c : Char} (shown : isBlank c = false) : skipBlanks ⟨c :: t, p⟩ = ⟨c :: t, p⟩ := by
  simp only [skipBlanks, List.dropWhile_cons, List.takeWhile_cons, shown, Bool.false_eq_true, ↓reduceIte,
    advance_nil]

theorem skipBlanks_nil : skipBlanks ⟨[], p⟩ = ⟨[], p⟩ := rfl

theorem expectRest_self (t rest : List Char) (p : Position) :
    expectRest t ⟨t ++ rest, p⟩ = .ok ⟨rest, advance p t⟩ := by
  induction t generalizing p with
  | nil => rfl
  | cons c t ih => simp only [expectRest, List.cons_append, ↓reduceIte, next_cons, ih, advance_cons]

/-! Strings. -/

theorem hexDigit_read {value : Nat} {c : Char} (digit : HexDigit value c) :
    Unicode.hexDigit? c = some value := by
  have lower : ∀ v < 16, ("0123456789abcdef".toList[v]?).bind Unicode.hexDigit? = some v := by decide
  have upper : ∀ v < 16, ("0123456789ABCDEF".toList[v]?).bind Unicode.hexDigit? = some v := by decide
  rcases digit with digit | digit
  · have small : value < 16 := (List.getElem?_eq_some_iff.mp digit).1
    simpa only [digit, Option.bind_some] using lower value small
  · have small : value < 16 := (List.getElem?_eq_some_iff.mp digit).1
    simpa only [digit, Option.bind_some] using upper value small

theorem hexNumber_read {value : Nat} (number : Unit16 value t) :
    hexNumber ⟨t ++ rest, p⟩ = .ok (value, ⟨rest, advance p t⟩) := by
  obtain ⟨first, second, third, fourth⟩ := number
  simp [hexNumber, hexDigit_read first, hexDigit_read second, hexDigit_read third, hexDigit_read fourth]

/-- A number that is no half of a pair is a character by itself. -/
theorem numberedChar_read {c : Char} (number : Unit16 c.toNat t) :
    numberedChar ⟨t ++ rest, p⟩ = .ok (c, ⟨rest, advance p t⟩) := by
  have valid : c.toNat < 0xD800 ∨ 0xDFFF < c.toNat ∧ c.toNat < 0x110000 := c.valid
  have notLow : ¬ (0xDC00 ≤ c.toNat ∧ c.toNat ≤ 0xDFFF) := by omega
  have notHigh : ¬ (0xD800 ≤ c.toNat ∧ c.toNat ≤ 0xDBFF) := by omega
  simp only [numberedChar, hexNumber_read number, Except.bind, bind, notLow, notHigh, ↓reduceIte,
    Char.ofNat_toNat]

/-- Two numbers that are halves of a pair are one character. -/
theorem numberedChar_pair {c : Char} {high low : Nat} {t' : List Char}
    (value : c.toNat = 0x10000 + high * 0x400 + low) (highBound : high < 0x400) (lowBound : low < 0x400)
    (first : Unit16 (0xD800 + high) t) (second : Unit16 (0xDC00 + low) t') :
    numberedChar ⟨t ++ '\\' :: 'u' :: (t' ++ rest), p⟩ =
      .ok (c, ⟨rest, advance p (t ++ '\\' :: 'u' :: t')⟩) := by
  have notLow : ¬ (0xDC00 ≤ 0xD800 + high ∧ 0xD800 + high ≤ 0xDFFF) := by omega
  have isHigh : 0xD800 ≤ 0xD800 + high ∧ 0xD800 + high ≤ 0xDBFF := by omega
  have isLow : 0xDC00 ≤ 0xDC00 + low ∧ 0xDC00 + low ≤ 0xDFFF := by omega
  have meant : Char.ofNat (0x10000 + (0xD800 + high - 0xD800) * 0x400 + (0xDC00 + low - 0xDC00)) = c := by
    rw [Nat.add_sub_cancel_left, Nat.add_sub_cancel_left, ← value, Char.ofNat_toNat]
  simp only [numberedChar, hexNumber_read first, hexNumber_read second, pairSign, Except.bind, bind, notLow,
    isHigh, isLow, and_self, ↓reduceIte, next_cons, meant, advance_append, advance_cons]

theorem shortEscape_read {letter c : Char} (listed : (letter, c) ∈ shortEscapes) :
    shortEscape? letter = some c ∧ letter ≠ 'u' := by
  simp only [shortEscapes, List.mem_cons, Prod.mk.injEq, List.not_mem_nil, or_false] at listed
  rcases listed with ⟨rfl, rfl⟩ | ⟨rfl, rfl⟩ | ⟨rfl, rfl⟩ | ⟨rfl, rfl⟩ | ⟨rfl, rfl⟩ | ⟨rfl, rfl⟩ |
    ⟨rfl, rfl⟩ | ⟨rfl, rfl⟩ <;> exact ⟨rfl, by decide⟩

/-- One character of a string, however it is written, costs one of the count. -/
theorem stringFrom_spelled {c : Char} (spelled : Spells c t) (count : Nat) (reversed : List Char) :
    stringFrom (count + 1) reversed ⟨t ++ rest, p⟩ = stringFrom count (c :: reversed) ⟨rest, advance p t⟩ := by
  cases spelled with
  | plain plain =>
    obtain ⟨shown, notQuote, notBackslash⟩ := plain
    have notControl : ¬ c.toNat < 0x20 := Nat.not_lt.mpr shown
    simp [stringFrom, notControl]
  | short listed =>
    obtain ⟨read, notNumbered⟩ := shortEscape_read listed
    simp [stringFrom, escaped, read, bind, Except.bind]
  | numbered number =>
    simp [stringFrom, escaped, numberedChar_read number, bind, Except.bind]
  | paired value highBound lowBound first second =>
    simp [stringFrom, escaped, numberedChar_pair value highBound lowBound first second, bind, Except.bind]

theorem spells_ne_nil {c : Char} (spelled : Spells c t) : t ≠ [] := by
  cases spelled <;> exact List.cons_ne_nil _ _

theorem stringFrom_read {s : List Char} {parts : List (List Char)} (spelled : List.Forall₂ Spells s parts)
    {count : Nat} (enough : parts.flatten.length < count) (reversed : List Char) :
    stringFrom count reversed ⟨parts.flatten ++ '\x22' :: rest, p⟩ =
      .ok (reversed.reverse ++ s, ⟨rest, advance p (parts.flatten ++ ['\x22'])⟩) := by
  induction spelled generalizing count reversed p with
  | nil =>
    obtain ⟨count, rfl⟩ := Nat.exists_eq_add_of_lt enough
    simp [stringFrom]
  | @cons c part s parts first others ih =>
    have shown := List.length_pos_iff.mpr (spells_ne_nil first)
    rw [List.flatten_cons, List.length_append] at enough
    obtain ⟨count, rfl⟩ : ∃ before, count = before + 1 := ⟨count - 1, by omega⟩
    rw [List.flatten_cons, List.append_assoc, stringFrom_spelled first, ih (by omega)]
    simp only [List.reverse_cons, List.append_assoc, List.singleton_append, advance_append]

/-- A string, behind its first quote. -/
theorem string_read {s : List Char} {parts : List (List Char)} (spelled : List.Forall₂ Spells s parts) :
    Cursor.string ⟨parts.flatten ++ '\x22' :: rest, p⟩ =
      .ok (s, ⟨rest, advance p (parts.flatten ++ ['\x22'])⟩) := by
  have enough : parts.flatten.length < (parts.flatten ++ '\x22' :: rest).length + 1 := by
    rw [List.length_append]; omega
  rw [Cursor.string, stringFrom_read spelled enough, List.reverse_nil, List.nil_append]

theorem skipStringFrom_filler (filler : Filler t) (count : Nat) :
    skipStringFrom (count + 1) ⟨t ++ rest, p⟩ = skipStringFrom count ⟨rest, advance p t⟩ := by
  cases filler with
  | plain plain =>
    obtain ⟨shown, notQuote, notBackslash⟩ := plain
    have notControl := Nat.not_lt.mpr shown
    rw [List.singleton_append, skipStringFrom]
    split
    case h_6 same =>
      cases same
      rw [if_neg notControl]
      rfl
    all_goals simp_all
  | short listed =>
    obtain ⟨read, notNumbered⟩ := shortEscape_read listed
    simp [skipStringFrom, read]
  | numbered number =>
    simp [skipStringFrom, hexNumber_read number, bind, Except.bind]

theorem filler_ne_nil (filler : Filler t) : t ≠ [] := by
  cases filler <;> exact List.cons_ne_nil _ _

theorem skipStringFrom_read {parts : List (List Char)} (fillers : ∀ part ∈ parts, Filler part)
    {count : Nat} (enough : parts.flatten.length < count) :
    skipStringFrom count ⟨parts.flatten ++ '\x22' :: rest, p⟩ =
      .ok ⟨rest, advance p (parts.flatten ++ ['\x22'])⟩ := by
  induction parts generalizing count p with
  | nil =>
    obtain ⟨count, rfl⟩ := Nat.exists_eq_add_of_lt enough
    simp [skipStringFrom]
  | cons part parts ih =>
    obtain ⟨first, others⟩ := List.forall_mem_cons.mp fillers
    have shown := List.length_pos_iff.mpr (filler_ne_nil first)
    rw [List.flatten_cons, List.length_append] at enough
    obtain ⟨count, rfl⟩ : ∃ before, count = before + 1 := ⟨count - 1, by omega⟩
    rw [List.flatten_cons, List.append_assoc, skipStringFrom_filler first, ih others (by omega)]
    simp only [List.append_assoc, advance_append]

/-- A string that nobody asked for, behind its first quote. -/
theorem skipString_read {parts : List (List Char)} (fillers : ∀ part ∈ parts, Filler part) :
    skipString ⟨parts.flatten ++ '\x22' :: rest, p⟩ =
      .ok ⟨rest, advance p (parts.flatten ++ ['\x22'])⟩ := by
  have enough : parts.flatten.length < (parts.flatten ++ '\x22' :: rest).length + 1 := by
    rw [List.length_append]; omega
  rw [skipString, skipStringFrom_read fillers enough]

/-! Numbers. -/

/-- What may stand behind a value: nothing, or what no number goes on with. -/
def Follows (rest : List Char) : Prop :=
  ∀ c ∈ rest.head?, isBlank c = true ∨ c ∈ [',', ']', '\x7d']

theorem follows_cons {c : Char} (listed : c ∈ [',', ']', '\x7d']) : Follows (c :: t) := by
  intro x member
  cases Option.some.inj member
  exact .inr listed

/-- Blanks may always come first. -/
theorem follows_append {blanks : List Char} (between : Blanks blanks) (follows : Follows rest) :
    Follows (blanks ++ rest) := by
  cases blanks with
  | nil => exact follows
  | cons c blanks =>
    intro x member
    cases Option.some.inj member
    exact .inl (isBlank_iff.mpr (between _ (List.mem_cons_self ..)))

/-- What stands behind a value is no part of a number. -/
theorem follows_head {c : Char} (follows : Follows (c :: rest)) :
    c.isDigit = false ∧ c ≠ '.' ∧ c ≠ 'e' ∧ c ≠ 'E' := by
  have listed : c ∈ [' ', '\t', '\n', '\r', ',', ']', '\x7d'] := by
    rcases follows c rfl with blank | other
    · exact List.mem_append_left [',', ']', '\x7d'] (isBlank_iff.mp blank)
    · exact List.mem_append_right [' ', '\t', '\n', '\r'] other
  have all : ∀ x ∈ [' ', '\t', '\n', '\r', ',', ']', '\x7d'],
      x.isDigit = false ∧ x ≠ '.' ∧ x ≠ 'e' ∧ x ≠ 'E' := by simp
  exact all c listed

/-- Digits end in front of anything else. -/
def EndsDigits (rest : List Char) : Prop :=
  ∀ c ∈ rest.head?, c.isDigit = false

theorem takeWhile_digits {digits : List Char} (formed : ∀ c ∈ digits, c.isDigit = true)
    (ends : EndsDigits rest) : (digits ++ rest).takeWhile Char.isDigit = digits := by
  rw [List.takeWhile_append_of_pos formed]
  cases rest with
  | nil => simp
  | cons c rest => simp [ends c rfl]

theorem skipDigits_read {digits : List Char} (formed : ∀ c ∈ digits, c.isDigit = true)
    (ends : EndsDigits rest) : skipDigits ⟨digits ++ rest, p⟩ = ⟨rest, advance p digits⟩ := by
  have left : rest.dropWhile Char.isDigit = rest := by
    cases rest with
    | nil => rfl
    | cons c rest => simp [ends c rfl]
  rw [skipDigits, Cursor.digits, takeWhile_digits formed ends, List.dropWhile_append_of_pos formed, left]

/-- The first digit of a whole number is not a zero in front of another. -/
theorem whole_head (whole : Whole t) (ends : EndsDigits rest) :
    ∃ d tail, t = d :: tail ∧ d.isDigit = true ∧
      ¬ (d = '0' ∧ ((tail ++ rest).head?.any Char.isDigit) = true) := by
  obtain ⟨⟨nonempty, formed⟩, zero⟩ := whole
  cases t with
  | nil => exact absurd rfl nonempty
  | cons d tail =>
    refine ⟨d, tail, rfl, formed d (List.mem_cons_self ..), ?_⟩
    rintro ⟨rfl, another⟩
    cases zero rfl
    cases rest with
    | nil => simp at another
    | cons c rest => simp [ends c rfl] at another

theorem gather_read {digits : List Char} {limit value : Nat} (taken : Nat)
    (fits : Nat.ofDigitChars 10 digits value ≤ limit) :
    gather limit value taken digits = (Nat.ofDigitChars 10 digits value, taken + digits.length, []) := by
  induction digits generalizing value taken with
  | nil => rfl
  | cons d digits ih =>
    have step : Nat.ofDigitChars 10 (d :: digits) value =
        Nat.ofDigitChars 10 digits (value * 10 + digitOf d) := by
      rw [Nat.ofDigitChars_cons, Nat.mul_comm 10]
      rfl
    rw [step] at fits ⊢
    have grows := le_ofDigitChars (value * 10 + digitOf d) digits
    rw [gather, if_neg (by omega), ih _ fits, List.length_cons, Nat.add_assoc, Nat.add_comm 1]

theorem follows_endsDigits (follows : Follows rest) : EndsDigits rest := by
  cases rest with
  | nil => exact fun _ member => nomatch member
  | cons c rest =>
    intro x member
    cases Option.some.inj member
    exact (follows_head follows).1

/-- A whole number of 64 bits is read as what it is worth. -/
theorem number_read {value : Nat} (written : NaturalOf value t) (fits : value ≤ maxNatural)
    (follows : Follows rest) :
    Cursor.number ⟨t ++ rest, p⟩ false = .ok (.natural value, ⟨rest, advance p t⟩) := by
  obtain ⟨whole, rfl⟩ := written
  have ends := follows_endsDigits follows
  have formed := whole.1.2
  obtain ⟨d, tail, rfl, digit, noZero⟩ := whole_head whole ends
  have digits : Cursor.digits ⟨d :: tail ++ rest, p⟩ = d :: tail := takeWhile_digits formed ends
  have behind := skipDigits_read (p := p) formed ends
  have gathered := gather_read 0 fits
  simp only [List.cons_append] at digits behind ⊢
  simp only [Cursor.number, digit, Bool.not_true, Bool.false_eq_true, next_cons, noZero, ↓reduceIte, digits,
    behind, gathered, List.isEmpty_nil, wholeNumeral, Bool.not_false]
  cases rest with
  | nil => rfl
  | cons c rest =>
    obtain ⟨-, notPoint, notSmall, notCapital⟩ := follows_head follows
    split
    case h_1 same => exact absurd (List.cons.inj same).1 notPoint
    split
    case h_1 same => exact absurd (List.cons.inj same).1 notSmall
    case h_2 same => exact absurd (List.cons.inj same).1 notCapital
    rfl

/-- Digits that have to come, at least one of them. -/
theorem digits_head (formed : Digits t) : ∃ d tail, t = d :: tail ∧ d.isDigit = true := by
  obtain ⟨nonempty, formed⟩ := formed
  cases t with
  | nil => exact absurd rfl nonempty
  | cons d tail => exact ⟨d, tail, rfl, formed d (List.mem_cons_self ..)⟩

theorem exponentSign_read {sign : List Char} (signed : sign ∈ [[], ['+'], ['-']]) (formed : Digits t)
    (rest : List Char) (p : Position) :
    (exponentSign ⟨sign ++ (t ++ rest), p⟩).2 = ⟨t ++ rest, advance p sign⟩ := by
  simp only [List.mem_cons, List.not_mem_nil, or_false] at signed
  rcases signed with rfl | rfl | rfl
  · obtain ⟨d, tail, rfl, digit⟩ := digits_head formed
    simp only [List.nil_append, List.cons_append, exponentSign]
    split
    case h_1 same =>
      cases same
      exact absurd digit (by decide)
    case h_2 same =>
      cases same
      exact absurd digit (by decide)
    rfl
  · rfl
  · rfl

theorem skipExponent_read {sign : List Char} (signed : sign ∈ [[], ['+'], ['-']]) (formed : Digits t)
    (follows : Follows rest) :
    skipExponent ⟨sign ++ (t ++ rest), p⟩ = .ok ⟨rest, advance p (sign ++ t)⟩ := by
  obtain ⟨d, tail, rfl, digit⟩ := digits_head formed
  have signRead := exponentSign_read signed formed rest p
  have behind := skipDigits_read (p := advance p sign) formed.2 (follows_endsDigits follows)
  simp only [List.cons_append] at signRead behind ⊢
  simp only [skipExponent, signRead, digit, ↓reduceIte, behind, advance_append]

/-- The power of ten behind a number, or nothing. -/
theorem skipAfterDigits_read (formed : Exponent t) (follows : Follows rest) :
    skipAfterDigits ⟨t ++ rest, p⟩ = .ok ⟨rest, advance p t⟩ := by
  cases formed with
  | absent =>
    cases rest with
    | nil => rfl
    | cons c rest =>
      obtain ⟨-, -, notSmall, notCapital⟩ := follows_head follows
      simp only [List.nil_append, skipAfterDigits]
      split
      case h_1 same => exact absurd (List.cons.inj same).1 notSmall
      case h_2 same => exact absurd (List.cons.inj same).1 notCapital
      rfl
  | @present letter sign digits lettered signed formed =>
    have read := skipExponent_read (p := p.past letter) signed formed follows
    simp only [List.mem_cons, List.not_mem_nil, or_false] at lettered
    rcases lettered with rfl | rfl <;>
      simpa only [List.cons_append, List.append_assoc, skipAfterDigits, next_cons, advance_cons] using read

theorem exponent_endsDigits (formed : Exponent t) (follows : Follows rest) : EndsDigits (t ++ rest) := by
  cases formed with
  | absent => exact follows_endsDigits follows
  | present lettered =>
    intro c member
    cases Option.some.inj member
    simp only [List.mem_cons, List.not_mem_nil, or_false] at lettered
    rcases lettered with rfl | rfl <;> decide

theorem exponent_notPoint (formed : Exponent t) (follows : Follows rest) :
    ∀ tail, t ++ rest ≠ '.' :: tail := by
  intro tail same
  cases formed with
  | absent =>
    rw [List.nil_append] at same
    subst same
    exact (follows_head follows).2.1 rfl
  | present lettered =>
    cases same
    exact absurd lettered (by decide)

theorem fraction_endsDigits {exponent : List Char} (formed : Fraction t) (behind : Exponent exponent)
    (follows : Follows rest) : EndsDigits (t ++ (exponent ++ rest)) := by
  cases formed with
  | absent => simpa only [List.nil_append] using exponent_endsDigits behind follows
  | present =>
    intro c member
    cases Option.some.inj member
    decide

/-- A number that nobody asked for, behind its sign. -/
theorem skipNumber_read (formed : Unsigned t) (follows : Follows rest) :
    skipNumber ⟨t ++ rest, p⟩ = .ok ⟨rest, advance p t⟩ := by
  obtain @⟨whole, fraction, exponent, first, second, third⟩ := formed
  have ends := fraction_endsDigits second third follows
  obtain ⟨d, tail, rfl, digit, noZero⟩ := whole_head first ends
  have behind := skipDigits_read (p := p) first.1.2 ends
  simp only [List.cons_append] at behind
  simp only [List.append_assoc, List.cons_append, skipNumber, digit, Bool.not_true, Bool.false_eq_true,
    next_cons, noZero, ↓reduceIte, behind]
  cases second with
  | absent =>
    simp only [List.nil_append]
    split
    case h_1 same => exact absurd same (exponent_notPoint third follows _)
    rw [skipAfterDigits_read third follows]
    simp
  | @present digits formed =>
    have ends := exponent_endsDigits third follows
    have present (place : Position) :
        (Cursor.digits ⟨digits ++ (exponent ++ rest), place⟩).isEmpty = false := by
      rw [Cursor.digits, takeWhile_digits formed.2 ends, List.isEmpty_eq_false_iff]
      exact formed.1
    simp only [List.cons_append, next_cons, present, Bool.false_eq_true, ↓reduceIte,
      skipDigits_read formed.2 ends, skipAfterDigits_read third follows, advance_cons, advance_append]

end AuthorNames.JsonReading
