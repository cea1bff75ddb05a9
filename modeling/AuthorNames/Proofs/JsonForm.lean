import AuthorNames.Proofs.AcceptedSettings
import AuthorNames.Proofs.JsonReading
import AuthorNames.Proofs.LossyDecoding
import AuthorNames.Proofs.WellFormedText
import Mathlib.Data.List.TakeWhile

/-! Only texts of the grammar are read: what stands between the place where a
reader began and the place where it ended has the form that the grammar gives to
what was read. Where faults are told does not matter here, so all is said of
what is still to be read. -/
namespace AuthorNames.JsonForm
open AuthorNames.Json AuthorNames.Json.Grammar AuthorNames.Json.Cursor AuthorNames.JsonReading
open AuthorNames.AcceptedSettings (bind_ok)
open AuthorNames.LossyDecoding (code_of_valid)
open AuthorNames.WellFormedText (mapM_eq_some_iff)

variable {c c' : Cursor} {t rest : List Char}

theorem map_ok {ε α β : Type} {made : Except ε α} {f : α → β} {result : β} (mapped : made.map f = .ok result) :
    ∃ value, made = .ok value ∧ f value = result := by
  cases made with
  | error fault => cases mapped
  | ok value => exact ⟨value, rfl, Except.ok.inj mapped⟩

/-- Behind the first of what is still to be read. -/
theorem next_rest {x : Char} (ahead : c.rest = x :: rest) : c.next.rest = rest := by
  rw [Cursor.next, ahead]

/-! Blanks and words. -/

theorem skipBlanks_form (c : Cursor) : ∃ blanks, Blanks blanks ∧ c.rest = blanks ++ c.skipBlanks.rest := by
  refine ⟨c.rest.takeWhile isBlank, fun x member => ?_, (List.takeWhile_append_dropWhile).symm⟩
  exact isBlank_iff.mp (List.mem_takeWhile_imp member)

/-- Blanks in front of a character that is looked at. -/
theorem skipBlanks_ahead {x : Char} (ahead : c.skipBlanks.rest = x :: rest) :
    ∃ blanks, Blanks blanks ∧ c.rest = blanks ++ x :: rest := by
  obtain ⟨blanks, between, whole⟩ := skipBlanks_form c
  exact ⟨blanks, between, by rw [whole, ahead]⟩

theorem expectRest_form {word : List Char} (read : expectRest word c = .ok c') : c.rest = word ++ c'.rest := by
  induction word generalizing c with
  | nil =>
    cases read
    rfl
  | cons expected more ih =>
    rw [expectRest] at read
    split at read
    · cases read
    · rename_i x tail ahead
      split at read
      · rename_i same
        rw [ahead, same, ← next_rest ahead, ih read]
        rfl
      · cases read

theorem colon_form (read : c.colon = .ok c') : ∃ blanks, Blanks blanks ∧ c.rest = blanks ++ ':' :: c'.rest := by
  rw [Cursor.colon] at read
  split at read
  · cases read
  · rename_i tail ahead
    cases read
    rw [next_rest ahead]
    exact skipBlanks_ahead ahead
  · cases read

/-! Strings. -/

theorem hexDigit_form {x : Char} {value : Nat} (read : Unicode.hexDigit? x = some value) : HexDigit value x := by
  have listed : ∀ n < 103, ∀ v ∈ Unicode.hexDigit? (Char.ofNat n), HexDigit v (Char.ofNat n) := by
    decide +kernel
  have bound : x.toNat < 103 := by
    unfold Unicode.hexDigit? at read
    have upper {y : Char} (below : x ≤ y) (small : y.toNat < 103) : x.toNat < 103 :=
      Nat.lt_of_le_of_lt below small
    split at read
    · rename_i inside
      exact upper inside.2 (by decide)
    split at read
    · rename_i inside
      exact upper inside.2 (by decide)
    split at read
    · rename_i inside
      exact upper inside.2 (by decide)
    · cases read
  have shown := listed x.toNat bound
  rw [Char.ofNat_toNat] at shown
  exact shown value read

theorem hexNumber_form {value : Nat} (read : c.hexNumber = .ok (value, c')) :
    ∃ digits, Unit16 value digits ∧ c.rest = digits ++ c'.rest := by
  rw [hexNumber] at read
  dsimp only at read
  split at read
  · rename_i a b d e mapped
    cases read
    refine ⟨c.rest.take 4, ?_, (List.take_append_drop 4 c.rest).symm⟩
    have digits := mapM_eq_some_iff.mp mapped
    obtain ⟨w, list, whole, first, others⟩ := List.map_eq_cons_iff.mp digits
    obtain ⟨x, list, rfl, second, others⟩ := List.map_eq_cons_iff.mp others
    obtain ⟨y, list, rfl, third, others⟩ := List.map_eq_cons_iff.mp others
    obtain ⟨z, list, rfl, fourth, others⟩ := List.map_eq_cons_iff.mp others
    rw [whole, List.map_eq_nil_iff.mp others]
    exact .digits (hexDigit_form first) (hexDigit_form second) (hexDigit_form third) (hexDigit_form fourth)
  · cases read

theorem unit16_bound {value : Nat} (number : Unit16 value t) : value < 0x10000 := by
  have small {v : Nat} {x : Char} (digit : HexDigit v x) : v < 16 := by
    rcases digit with digit | digit <;> exact (List.getElem?_eq_some_iff.mp digit).1
  obtain ⟨first, second, third, fourth⟩ := number
  have a := small first
  have b := small second
  have d := small third
  have e := small fourth
  omega

theorem pairSign_form {sign : Char} (read : c.pairSign sign = .ok c') : c.rest = sign :: c'.rest := by
  rw [pairSign] at read
  split at read
  · cases read
  · rename_i x tail ahead
    split at read
    · rename_i same
      cases read
      rw [ahead, same, next_rest ahead]
    · cases read

/-- A character that is written by its number, behind the letter `u`. -/
theorem numberedChar_form {x : Char} (read : c.numberedChar = .ok (x, c')) :
    ∃ t, Spells x ('\\' :: 'u' :: t) ∧ c.rest = t ++ c'.rest := by
  obtain ⟨⟨first, c₁⟩, firstRead, read⟩ := bind_ok read
  obtain ⟨digits, number, whole⟩ := hexNumber_form firstRead
  have bound := unit16_bound number
  dsimp only at read
  split at read
  · cases read
  rename_i notLow
  split at read
  · rename_i isHigh
    obtain ⟨c₂, slash, read⟩ := bind_ok read
    obtain ⟨c₃, letter, read⟩ := bind_ok read
    obtain ⟨⟨second, c₄⟩, secondRead, read⟩ := bind_ok read
    obtain ⟨digits', number', whole'⟩ := hexNumber_form secondRead
    dsimp only at read
    split at read
    · rename_i isLow
      obtain ⟨meant, rfl⟩ := Prod.mk.inj (Except.ok.inj read)
      have code : (Char.ofNat (0x10000 + (first - 0xD800) * 0x400 + (second - 0xDC00))).toNat =
          0x10000 + (first - 0xD800) * 0x400 + (second - 0xDC00) := code_of_valid (.inr (by omega))
      have high : 0xD800 + (first - 0xD800) = first := by omega
      have low : 0xDC00 + (second - 0xDC00) = second := by omega
      refine ⟨digits ++ '\\' :: 'u' :: digits', ?_, ?_⟩
      · rw [← meant]
        exact .paired code (by omega) (by omega) (by rwa [high]) (by rwa [low])
      · rw [whole, pairSign_form slash, pairSign_form letter, whole']
        simp
    · cases read
  · rename_i notHigh
    cases read
    have code : (Char.ofNat first).toNat = first := code_of_valid (by omega)
    exact ⟨digits, .numbered (by rwa [code]), whole⟩

theorem shortEscape_form {letter x : Char} (read : shortEscape? letter = some x) : (letter, x) ∈ shortEscapes := by
  unfold shortEscape? at read
  split at read
  all_goals first | (cases read; decide) | cases read

/-- A character behind a backslash. -/
theorem escaped_form {x : Char} (read : c.escaped = .ok (x, c')) :
    ∃ t, Spells x ('\\' :: t) ∧ c.rest = t ++ c'.rest := by
  rw [escaped] at read
  split at read
  · cases read
  · rename_i tail ahead
    obtain ⟨t, spelled, whole⟩ := numberedChar_form read
    exact ⟨'u' :: t, spelled, by rw [ahead, ← next_rest ahead, whole]; rfl⟩
  · rename_i letter tail _ ahead
    split at read
    · rename_i meant listed
      cases read
      exact ⟨[letter], .short (shortEscape_form listed), by rw [ahead, next_rest ahead]; rfl⟩
    · cases read

theorem stringFrom_form {count : Nat} {reversed s : List Char} (read : c.stringFrom count reversed = .ok (s, c')) :
    ∃ chars parts, List.Forall₂ Spells chars parts ∧ s = reversed.reverse ++ chars ∧
      c.rest = parts.flatten ++ '\x22' :: c'.rest := by
  induction count generalizing c reversed with
  | zero => cases read
  | succ count ih =>
    rw [stringFrom] at read
    split at read
    · cases read
    · rename_i tail ahead
      cases read
      exact ⟨[], [], .nil, by simp, by rw [ahead, next_rest ahead]; rfl⟩
    · rename_i tail ahead
      obtain ⟨⟨x, c₁⟩, escaped, read⟩ := bind_ok read
      obtain ⟨t, spelled, whole⟩ := escaped_form escaped
      obtain ⟨chars, parts, others, rfl, later⟩ := ih read
      refine ⟨x :: chars, ('\\' :: t) :: parts, .cons spelled others, by simp, ?_⟩
      rw [ahead, ← next_rest ahead, whole, later]
      simp
    · rename_i x tail notQuote notSlash ahead
      split at read
      · cases read
      · rename_i shown
        obtain ⟨chars, parts, others, rfl, later⟩ := ih read
        have plain : Plain x := by
          refine ⟨Nat.le_of_not_lt shown, ?_, ?_⟩
          · rintro rfl
            exact notQuote rfl
          · rintro rfl
            exact notSlash rfl
        refine ⟨x :: chars, [x] :: parts, .cons (.plain plain) others, by simp, ?_⟩
        rw [ahead, ← next_rest ahead, later]
        rfl

/-- A string, behind its first quote. -/
theorem string_form {s : List Char} (read : c.string = .ok (s, c')) :
    ∃ parts, List.Forall₂ Spells s parts ∧ c.rest = parts.flatten ++ '\x22' :: c'.rest := by
  obtain ⟨chars, parts, spelled, same, whole⟩ := stringFrom_form read
  cases same
  exact ⟨parts, spelled, whole⟩

theorem skipStringFrom_form {count : Nat} (read : c.skipStringFrom count = .ok c') :
    ∃ parts, (∀ part ∈ parts, Filler part) ∧ c.rest = List.flatten parts ++ '\x22' :: c'.rest := by
  induction count generalizing c with
  | zero => cases read
  | succ count ih =>
    rw [skipStringFrom] at read
    split at read
    · cases read
    · rename_i tail ahead
      cases read
      refine ⟨[], by simp, ?_⟩
      rw [ahead, next_rest ahead]
      rfl
    · cases read
    · rename_i tail ahead
      obtain ⟨⟨value, c₁⟩, numbered, read⟩ := bind_ok read
      obtain ⟨digits, number, whole⟩ := hexNumber_form numbered
      obtain ⟨parts, others, later⟩ := ih read
      refine ⟨('\\' :: 'u' :: digits) :: parts, List.forall_mem_cons.mpr ⟨.numbered number, others⟩, ?_⟩
      rw [next_rest (next_rest ahead)] at whole
      rw [ahead, whole, later]
      simp
    · rename_i letter tail _ ahead
      split at read
      · rename_i listed
        obtain ⟨x, named⟩ := Option.isSome_iff_exists.mp listed
        obtain ⟨parts, others, later⟩ := ih read
        refine ⟨['\\', letter] :: parts,
          List.forall_mem_cons.mpr ⟨.short (shortEscape_form named), others⟩, ?_⟩
        rw [ahead, ← next_rest (next_rest ahead), later]
        rfl
      · cases read
    · rename_i x tail notQuote slashEnds _ slashGoesOn ahead
      split at read
      · cases read
      · rename_i shown
        obtain ⟨parts, others, later⟩ := ih read
        have notSlash : x ≠ '\\' := by
          intro slash
          cases tail with
          | nil => exact slashEnds slash rfl
          | cons letter tail => exact slashGoesOn letter tail slash rfl
        have plain : Plain x := ⟨Nat.le_of_not_lt shown, notQuote, notSlash⟩
        refine ⟨[x] :: parts, List.forall_mem_cons.mpr ⟨.plain plain, others⟩, ?_⟩
        rw [ahead, ← next_rest ahead, later]
        rfl

/-- A string that nobody asked for, behind its first quote. -/
theorem skipString_form (read : c.skipString = .ok c') :
    ∃ parts, (∀ part ∈ parts, Filler part) ∧ c.rest = List.flatten parts ++ '\x22' :: c'.rest :=
  skipStringFrom_form read

/-! Numbers. -/

theorem scale_float {isNegative : Bool} {significand : Nat} {exponent : Int} {numeral : Numeral}
    (read : c.scale isNegative significand exponent = .ok (numeral, c')) : ∃ x, numeral = .float x := by
  unfold scale at read
  dsimp only at read
  split at read
  · cases read
    exact ⟨_, rfl⟩
  split at read
  · split at read
    · cases read
      exact ⟨_, rfl⟩
    · cases read
  split at read
  · cases read
  · cases read
    exact ⟨_, rfl⟩

theorem exponentPart_float {isNegative : Bool} {significand : Nat} {before : Int} {numeral : Numeral}
    (read : c.exponentPart isNegative significand before = .ok (numeral, c')) : ∃ x, numeral = .float x := by
  unfold exponentPart at read
  dsimp only at read
  split at read
  · cases read
  split at read
  · cases read
  split at read
  · exact scale_float read
  split at read
  · cases read
  · cases read
    exact ⟨_, rfl⟩

theorem afterDigits_float {isNegative : Bool} {significand : Nat} {exponent : Int} {numeral : Numeral}
    (read : c.afterDigits isNegative significand exponent = .ok (numeral, c')) : ∃ x, numeral = .float x := by
  unfold afterDigits at read
  split at read
  · exact exponentPart_float read
  · exact exponentPart_float read
  · exact scale_float read

theorem fractionPart_float {isNegative : Bool} {significand : Nat} {exponent : Int} {numeral : Numeral}
    (read : c.fractionPart isNegative significand exponent = .ok (numeral, c')) : ∃ x, numeral = .float x := by
  unfold fractionPart at read
  dsimp only at read
  split at read
  · split at read <;> cases read
  · exact afterDigits_float read

theorem gather_form {digits : List Char} {limit value taken worth count : Nat} (below : value ≤ limit)
    (all : gather limit value taken digits = (worth, count, [])) :
    worth = Nat.ofDigitChars 10 digits value ∧ worth ≤ limit := by
  induction digits generalizing value taken with
  | nil =>
    cases all
    exact ⟨rfl, below⟩
  | cons d digits ih =>
    rw [gather] at all
    split at all
    · cases all
    · rename_i fits
      obtain ⟨same, bound⟩ := ih (Nat.le_of_not_lt fits) all
      refine ⟨?_, bound⟩
      rw [same, Nat.ofDigitChars_cons, Nat.mul_comm 10]
      rfl

theorem skipDigits_form (c : Cursor) : c.rest = c.digits ++ c.skipDigits.rest :=
  List.takeWhile_append_dropWhile.symm

theorem digits_formed (c : Cursor) : ∀ x ∈ c.digits, x.isDigit = true :=
  fun _ member => List.mem_takeWhile_imp member

/-- Digits that may begin a number. -/
theorem digits_whole {d : Char} (ahead : c.rest = d :: rest) (digit : d.isDigit = true)
    (noZero : ¬ (d = '0' ∧ c.next.rest.head?.any Char.isDigit = true)) : Whole c.digits := by
  have shape : c.digits = d :: rest.takeWhile Char.isDigit := by
    rw [Cursor.digits, ahead, List.takeWhile_cons_of_pos digit]
  refine ⟨⟨by rw [shape]; exact List.cons_ne_nil _ _, digits_formed c⟩, fun zero => ?_⟩
  rw [shape] at zero ⊢
  cases zero
  rw [next_rest ahead] at noZero
  cases rest with
  | nil => rfl
  | cons x rest =>
    have other : ¬ x.isDigit = true := fun another => noZero ⟨rfl, another⟩
    rw [List.takeWhile_cons_of_neg other]

/-- What is read as a whole number that is not negative is written as one, and has 64 bits. -/
theorem number_form {isNegative : Bool} {value : Nat} (read : c.number isNegative = .ok (.natural value, c')) :
    isNegative = false ∧ value ≤ maxNatural ∧ ∃ t, NaturalOf value t ∧ c.rest = t ++ c'.rest := by
  have notFloat {made : Except Fault (Numeral × Cursor)} (float : ∀ numeral c', made = .ok (numeral, c') →
      ∃ x, numeral = .float x) : made ≠ .ok (.natural value, c') := by
    intro made
    obtain ⟨x, same⟩ := float _ _ made
    cases same
  unfold Cursor.number at read
  split at read
  · cases read
  rename_i d rest ahead
  split at read
  · cases read
  rename_i digit
  split at read
  · cases read
  rename_i noZero
  dsimp only at read
  split at read
  · exact absurd read (notFloat fun _ _ => fractionPart_float)
  split at read
  · rename_i all
    split at read
    · exact absurd read (notFloat fun _ _ => exponentPart_float)
    · exact absurd read (notFloat fun _ _ => exponentPart_float)
    · obtain ⟨same, rfl⟩ := Prod.mk.inj (Except.ok.inj read)
      have whole := digits_whole ahead (by simpa using digit) noZero
      have left : (gather maxNatural 0 0 c.digits).2.2 = [] := List.isEmpty_iff.mp all
      obtain ⟨worth, bound⟩ := gather_form (Nat.zero_le _) (Prod.ext rfl (Prod.ext rfl left))
      unfold wholeNumeral at same
      split at same
      · rename_i positive
        cases same
        refine ⟨by simpa using positive, bound, c.digits, ⟨whole, worth.symm⟩, skipDigits_form c⟩
      · split at same <;> cases same
  · exact absurd read (notFloat fun _ _ => afterDigits_float)

theorem exponentSign_form (c : Cursor) :
    ∃ sign ∈ [[], ['+'], ['-']], c.rest = sign ++ c.exponentSign.2.rest := by
  rw [exponentSign]
  split
  · rename_i tail ahead
    exact ⟨['+'], by simp, by rw [ahead, next_rest ahead]; rfl⟩
  · rename_i tail ahead
    exact ⟨['-'], by simp, by rw [ahead, next_rest ahead]; rfl⟩
  · exact ⟨[], by simp, rfl⟩

theorem digits_of_head {d : Char} (ahead : c.rest = d :: rest) (digit : d.isDigit = true) : Digits c.digits := by
  refine ⟨?_, digits_formed c⟩
  rw [Cursor.digits, ahead, List.takeWhile_cons_of_pos digit]
  exact List.cons_ne_nil _ _

/-- The power of ten of a number that nobody asked for, behind its letter. -/
theorem skipExponent_form (read : c.skipExponent = .ok c') :
    ∃ sign digits, sign ∈ [[], ['+'], ['-']] ∧ Digits digits ∧ c.rest = sign ++ digits ++ c'.rest := by
  obtain ⟨sign, signed, whole⟩ := exponentSign_form c
  unfold skipExponent at read
  dsimp only at read
  split at read
  · cases read
  rename_i d tail ahead
  split at read
  · rename_i digit
    cases read
    refine ⟨sign, _, signed, digits_of_head ahead digit, ?_⟩
    rw [whole, List.append_assoc, ← skipDigits_form]
  · cases read

theorem skipAfterDigits_form (read : c.skipAfterDigits = .ok c') :
    ∃ t, Exponent t ∧ c.rest = t ++ c'.rest := by
  unfold skipAfterDigits at read
  split at read
  · rename_i tail ahead
    obtain ⟨sign, digits, signed, formed, whole⟩ := skipExponent_form read
    rw [next_rest ahead] at whole
    exact ⟨'e' :: (sign ++ digits), .present (by simp) signed formed, by rw [ahead, whole]; rfl⟩
  · rename_i tail ahead
    obtain ⟨sign, digits, signed, formed, whole⟩ := skipExponent_form read
    rw [next_rest ahead] at whole
    exact ⟨'E' :: (sign ++ digits), .present (by simp) signed formed, by rw [ahead, whole]; rfl⟩
  · cases read
    exact ⟨[], .absent, rfl⟩

/-- A number that nobody asked for, behind its sign. -/
theorem skipNumber_form (read : c.skipNumber = .ok c') : ∃ t, Unsigned t ∧ c.rest = t ++ c'.rest := by
  unfold skipNumber at read
  split at read
  · cases read
  rename_i d rest ahead
  split at read
  · cases read
  rename_i digit
  split at read
  · cases read
  rename_i noZero
  have whole := digits_whole ahead (by simpa using digit) noZero
  dsimp only at read
  split at read
  · rename_i tail point
    split at read
    · cases read
    · rename_i present
      obtain ⟨exponent, third, behind⟩ := skipAfterDigits_form read
      have formed : Digits c.skipDigits.next.digits := by
        refine ⟨by simpa using present, digits_formed _⟩
      refine ⟨_, .parts whole (.present formed) third, ?_⟩
      rw [skipDigits_form c, point, ← next_rest point, skipDigits_form c.skipDigits.next, behind]
      simp
  · obtain ⟨exponent, third, behind⟩ := skipAfterDigits_form read
    refine ⟨_, .parts whole .absent third, ?_⟩
    rw [skipDigits_form c, behind]
    simp

end AuthorNames.JsonForm
