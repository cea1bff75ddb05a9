import AuthorNames.Proofs.DecodedLines
import AuthorNames.Proofs.EncodedText

/-! Bytes that are read as a text throughout are the bytes of that text: each of
the four lengths of a character can be told from its lead, and the narrow bounds
behind some leads leave every character one way to be written. -/
namespace AuthorNames.WellFormedText
open AuthorNames.Text.Utf8 AuthorNames.EncodedText AuthorNames.LossyDecoding
open AuthorNames.DecodedLines (decodeLossy_eq_nil)

/-! Characters from their bytes. -/

theorem code_ofNat {n : Nat} (valid : n < 0xD800 ∨ 0xDFFF < n ∧ n < 0x110000) :
    (Char.ofNat n).val.toNat = n :=
  code_of_valid valid

theorem ofNat_eq {n : Nat} (byte : UInt8) (same : n = byte.toNat) : UInt8.ofNat n = byte := by
  rw [same, UInt8.ofNat_toNat]

/-- A byte that goes on with a character. -/
def GoesOn (byte : UInt8) : Prop :=
  0x80 ≤ byte.toNat ∧ byte.toNat ≤ 0xBF

variable {lead second third last : UInt8}

theorem encodeChar_one (low : lead.toNat < 0x80) :
    String.utf8EncodeChar (Char.ofNat lead.toNat) = [lead] := by
  simp only [String.utf8EncodeChar, code_ofNat (n := lead.toNat) (by omega)]
  rw [if_pos (by omega), ofNat_eq lead rfl]

theorem encodeChar_two (low : 0xC2 ≤ lead.toNat) (high : lead.toNat ≤ 0xDF) (follows : GoesOn last) :
    String.utf8EncodeChar (Char.ofNat ((lead.toNat - 0xC0) * 64 + (last.toNat - 0x80))) = [lead, last] := by
  obtain ⟨lower, upper⟩ := follows
  have code := code_ofNat (n := (lead.toNat - 0xC0) * 64 + (last.toNat - 0x80)) (by omega)
  simp only [String.utf8EncodeChar, code]
  rw [if_neg (by omega), if_pos (by omega), ofNat_eq lead (by omega),
    ofNat_eq last (by omega)]

/-- The bounds behind two leads keep out what fits into two bytes, and surrogates. -/
theorem encodeChar_three (low : 0xE0 ≤ lead.toNat) (high : lead.toNat ≤ 0xEF) (inside : GoesOn second)
    (overlong : lead.toNat = 0xE0 → 0xA0 ≤ second.toNat) (surrogate : lead.toNat = 0xED → second.toNat ≤ 0x9F)
    (follows : GoesOn last) :
    String.utf8EncodeChar (Char.ofNat (((lead.toNat - 0xE0) * 64 + (second.toNat - 0x80)) * 64 +
      (last.toNat - 0x80))) = [lead, second, last] := by
  obtain ⟨lower, upper⟩ := follows
  obtain ⟨least, most⟩ := inside
  have code := code_ofNat
    (n := ((lead.toNat - 0xE0) * 64 + (second.toNat - 0x80)) * 64 + (last.toNat - 0x80)) (by omega)
  simp only [String.utf8EncodeChar, code]
  rw [if_neg (by omega), if_neg (by omega), if_pos (by omega), ofNat_eq lead (by omega),
    ofNat_eq second (by omega), ofNat_eq last (by omega)]

/-- The bounds behind two leads keep out what fits into three bytes, and values beyond the last
character. -/
theorem encodeChar_four (low : 0xF0 ≤ lead.toNat) (high : lead.toNat ≤ 0xF4) (inside : GoesOn second)
    (overlong : lead.toNat = 0xF0 → 0x90 ≤ second.toNat) (beyond : lead.toNat = 0xF4 → second.toNat ≤ 0x8F)
    (within : GoesOn third) (follows : GoesOn last) :
    String.utf8EncodeChar (Char.ofNat ((((lead.toNat - 0xF0) * 64 + (second.toNat - 0x80)) * 64 +
      (third.toNat - 0x80)) * 64 + (last.toNat - 0x80))) = [lead, second, third, last] := by
  obtain ⟨lower, upper⟩ := follows
  obtain ⟨least, most⟩ := inside
  obtain ⟨bottom, top⟩ := within
  have code := code_ofNat (n := (((lead.toNat - 0xF0) * 64 + (second.toNat - 0x80)) * 64 +
    (third.toNat - 0x80)) * 64 + (last.toNat - 0x80)) (by omega)
  simp only [String.utf8EncodeChar, code]
  rw [if_neg (by omega), if_neg (by omega), if_neg (by omega), ofNat_eq lead (by omega),
    ofNat_eq second (by omega), ofNat_eq third (by omega),
    ofNat_eq last (by omega)]

/-! Reading. -/

variable {bytes : List UInt8} {low high : UInt8} {value missing : Nat} {c : Char} {more : List (Option Char)}

/-- What has begun goes on with a byte within the bounds, unless it is broken off. -/
theorem within_whole (read : partsFrom (.within missing low high value) bytes = some c :: more) :
    ∃ byte rest, bytes = byte :: rest ∧ low.toNat ≤ byte.toNat ∧ byte.toNat ≤ high.toNat := by
  cases bytes with
  | nil => cases read
  | cons byte rest =>
    refine ⟨byte, rest, rfl, ?_⟩
    by_contra outside
    have broken : ¬ (low ≤ byte ∧ byte ≤ high) := outside
    simp only [partsFrom, feed, broken, if_false] at read
    cases read

theorem middle_whole (read : partsFrom (.within (missing + 1) low high value) bytes = some c :: more) :
    ∃ byte rest, bytes = byte :: rest ∧ low.toNat ≤ byte.toNat ∧ byte.toNat ≤ high.toNat ∧
      partsFrom (.within missing 0x80 0xBF (value * 64 + (byte.toNat - 0x80))) rest = some c :: more := by
  obtain ⟨byte, rest, rfl, lower, upper⟩ := within_whole read
  rw [partsFrom_middle lower upper] at read
  exact ⟨byte, rest, rfl, lower, upper, read⟩

theorem last_whole (read : partsFrom (.within 0 0x80 0xBF value) bytes = some c :: more) :
    ∃ byte rest, bytes = byte :: rest ∧ GoesOn byte ∧ c = Char.ofNat (value * 64 + (byte.toNat - 0x80)) ∧
      partsFrom .fresh rest = more := by
  obtain ⟨byte, rest, rfl, lower, upper⟩ := within_whole read
  rw [partsFrom_last lower upper] at read
  obtain ⟨same, onward⟩ := List.cons.inj read
  exact ⟨byte, rest, rfl, ⟨lower, upper⟩, (Option.some.inj same).symm, onward⟩

/-- Bounds that are narrower behind one lead. -/
theorem goesOn_of_bounds {byte : UInt8} {a b : Prop} [Decidable a] [Decidable b] {least most : UInt8}
    (floor : 0x80 ≤ least.toNat) (ceiling : most.toNat ≤ 0xBF)
    (lower : (if a then least else 0x80).toNat ≤ byte.toNat)
    (upper : byte.toNat ≤ (if b then most else 0xBF).toNat) :
    GoesOn byte ∧ (a → least.toNat ≤ byte.toNat) ∧ (b → byte.toNat ≤ most.toNat) := by
  refine ⟨⟨?_, ?_⟩, fun narrow => by rwa [if_pos narrow] at lower, fun narrow => by rwa [if_pos narrow] at upper⟩
  · split at lower
    · exact Nat.le_trans floor lower
    · exact lower
  · split at upper
    · exact Nat.le_trans upper ceiling
    · exact upper

/-- A byte that begins no character is ill-formed by itself. -/
theorem start_stray (ascii : ¬ lead.toNat < 0x80) (two : ¬ (0xC2 ≤ lead.toNat ∧ lead.toNat ≤ 0xDF))
    (three : ¬ (0xE0 ≤ lead.toNat ∧ lead.toNat ≤ 0xEF)) (four : ¬ (0xF0 ≤ lead.toNat ∧ lead.toNat ≤ 0xF4)) :
    start lead = ([none], .fresh) := by
  simp only [start]
  split_ifs <;> first | rfl | omega

/-- Bytes whose first character is read are the bytes of that character, and what is read from the
others. -/
theorem encodeChar_of_read (read : partsFrom .fresh bytes = some c :: more) :
    ∃ rest, bytes = String.utf8EncodeChar c ++ rest ∧ partsFrom .fresh rest = more := by
  cases bytes with
  | nil => cases read
  | cons lead bytes =>
    by_cases one : lead.toNat < 0x80
    · have begins : start lead = ([some (Char.ofNat lead.toNat)], .fresh) := by
        simp only [start, one, ↓reduceIte]
      simp only [partsFrom, feed, begins, List.cons_append, List.nil_append] at read
      obtain ⟨same, onward⟩ := List.cons.inj read
      refine ⟨bytes, ?_, onward⟩
      rw [← Option.some.inj same, encodeChar_one one]
      rfl
    by_cases two : 0xC2 ≤ lead.toNat ∧ lead.toNat ≤ 0xDF
    · rw [partsFrom_lead (start_two lead two.1 two.2)] at read
      obtain ⟨last, rest, rfl, follows, same, onward⟩ := last_whole read
      refine ⟨rest, ?_, onward⟩
      rw [same, encodeChar_two two.1 two.2 follows]
      rfl
    by_cases three : 0xE0 ≤ lead.toNat ∧ lead.toNat ≤ 0xEF
    · rw [partsFrom_lead (start_three lead three.1 three.2)] at read
      obtain ⟨second, rest, rfl, lower, upper, read⟩ := middle_whole read
      obtain ⟨inside, overlong, surrogate⟩ := goesOn_of_bounds (by decide) (by decide) lower upper
      obtain ⟨last, rest, rfl, follows, same, onward⟩ := last_whole read
      refine ⟨rest, ?_, onward⟩
      rw [same, encodeChar_three three.1 three.2 inside overlong surrogate follows]
      rfl
    by_cases four : 0xF0 ≤ lead.toNat ∧ lead.toNat ≤ 0xF4
    · rw [partsFrom_lead (start_four lead four.1 four.2)] at read
      obtain ⟨second, rest, rfl, lower, upper, read⟩ := middle_whole read
      obtain ⟨inside, overlong, beyond⟩ := goesOn_of_bounds (by decide) (by decide) lower upper
      obtain ⟨third, rest, rfl, least, most, read⟩ := middle_whole read
      obtain ⟨last, rest, rfl, follows, same, onward⟩ := last_whole read
      refine ⟨rest, ?_, onward⟩
      rw [same, encodeChar_four four.1 four.2 inside overlong beyond ⟨least, most⟩ follows]
      rfl
    simp only [partsFrom, feed, start_stray one two three four, List.cons_append] at read
    cases read

theorem mapM_eq_some_iff {α β : Type} {f : α → Option β} {list : List α} {results : List β} :
    list.mapM f = some results ↔ list.map f = results.map some := by
  induction list generalizing results with
  | nil => cases results <;> simp
  | cons x list ih =>
    rw [List.mapM_cons]
    cases results with
    | nil => simp [Option.bind_eq_some_iff]
    | cons result results => simp [Option.bind_eq_some_iff, ih]

theorem encode_of_parts {text : List Char} (read : parts bytes = text.map some) : bytes = encode text := by
  induction text generalizing bytes with
  | nil =>
    refine decodeLossy_eq_nil.mp ?_
    rw [decodeLossy, read]
    rfl
  | cons c text ih =>
    obtain ⟨rest, rfl, onward⟩ := encodeChar_of_read read
    rw [encode, List.flatMap_cons, ← encode, ← ih onward]

/-- Only the bytes of a text are read as that text throughout. -/
theorem decode?_eq_some_iff {text : List Char} : decode? bytes = some text ↔ bytes = encode text := by
  constructor
  · intro read
    exact encode_of_parts (by simpa only [List.map_id] using mapM_eq_some_iff.mp read)
  · rintro rfl
    exact decode?_encode text

end AuthorNames.WellFormedText
