import AuthorNames.Proofs.EncodedText
import AuthorNames.Proofs.LossyDecoding
import AuthorNames.Url.Percent

/-! Escapes stand for bytes and can be read back. Where a part of a URL escapes
the percent sign itself, nothing that was written unescaped can be taken for an
escape, so the bytes of the text come back and two texts are never written
alike. -/
namespace AuthorNames.PercentEscapes
open AuthorNames.Url AuthorNames.Url.Percent
open AuthorNames.Text (Utf8.encode)
open AuthorNames.EncodedText AuthorNames.LossyDecoding

/-- The digits that escapes are written with: figures and capital letters. -/
def IsDigit (c : Char) : Prop :=
  ∃ value < 16, c = hexDigit value

/-- Each percent sign begins an escape, with two digits behind it. -/
def WellEscaped (text : List Char) : Prop :=
  ∀ before after, text = before ++ '%' :: after →
    ∃ high low rest, after = high :: low :: rest ∧ IsDigit high ∧ IsDigit low

variable {set : EscapeSet} {text first second : List Char} {c : Char}

/-! Digits. -/

theorem digitValue?_hexDigit : ∀ value < 16, digitValue? (hexDigit value) = some value := by
  decide

/-- A digit is visible, and neither a percent sign nor one of the signs that mean something in a path. -/
theorem isDigit_plain (digit : IsDigit c) :
    (0x20 < c.toNat ∧ c.toNat < 0x7F) ∧ c ∉ ['%', '/', '\\', '?', '#'] := by
  obtain ⟨value, bound, rfl⟩ := digit
  have all : ∀ value < 16, (0x20 < (hexDigit value).toNat ∧ (hexDigit value).toNat < 0x7F) ∧
      hexDigit value ∉ ['%', '/', '\\', '?', '#'] := by decide
  exact all value bound

theorem escapeByte_digits (byte : UInt8) :
    ∃ high low, escapeByte byte = ['%', high, low] ∧ IsDigit high ∧ IsDigit low := by
  have bound := byte.toNat_lt
  exact ⟨_, _, rfl, ⟨_, by omega, rfl⟩, ⟨_, Nat.mod_lt _ (by decide), rfl⟩⟩

/-! Reading back. -/

theorem decode_escapeByte (byte : UInt8) (rest : List Char) :
    decode (escapeByte byte ++ rest) = byte :: decode rest := by
  have bound := byte.toNat_lt
  have high := digitValue?_hexDigit (byte.toNat / 16) (by omega)
  have low := digitValue?_hexDigit (byte.toNat % 16) (by omega)
  have whole : byte.toNat / 16 * 16 + byte.toNat % 16 = byte.toNat := by omega
  simp only [escapeByte, List.cons_append, List.nil_append, decode, high, low, whole, UInt8.ofNat_toNat]

theorem decode_escapes (bytes : List UInt8) (rest : List Char) :
    decode (bytes.flatMap escapeByte ++ rest) = bytes ++ decode rest := by
  induction bytes with
  | nil => rfl
  | cons byte bytes ih =>
    rw [List.flatMap_cons, List.append_assoc, decode_escapeByte, ih, List.cons_append]

theorem decode_other (other : c ≠ '%') (rest : List Char) :
    decode (c :: rest) = String.utf8EncodeChar c ++ decode rest := by
  rw [decode.eq_def]
  split
  · contradiction
  · rename_i same
    cases same
    exact absurd rfl other
  · rename_i same
    cases same
    rfl

theorem decode_escape (marks : set '%' = true) (c : Char) (rest : List Char) :
    decode (escape set c ++ rest) = String.utf8EncodeChar c ++ decode rest := by
  rw [escape]
  split
  · rw [decode_escapes]
  · rename_i kept
    have other : c ≠ '%' := by
      intro same
      exact kept (same ▸ marks)
    exact decode_other other rest

/-- What is written with escapes is read as the bytes of the text, whatever
stands behind it. -/
theorem decode_encode_append (marks : set '%' = true) (text rest : List Char) :
    decode (encode set text ++ rest) = Utf8.encode text ++ decode rest := by
  induction text with
  | nil => rfl
  | cons c text ih =>
    have bytes : Utf8.encode (c :: text) = String.utf8EncodeChar c ++ Utf8.encode text := List.flatMap_cons
    rw [encode, List.flatMap_cons, ← encode, List.append_assoc, decode_escape marks, ih, bytes,
      List.append_assoc]

theorem decode_encode (marks : set '%' = true) (text : List Char) :
    decode (encode set text) = Utf8.encode text := by
  have whole := decode_encode_append marks text []
  rw [List.append_nil] at whole
  rw [whole]
  exact List.append_nil _

theorem utf8_injective (same : Utf8.encode first = Utf8.encode second) : first = second := by
  have read := congrArg Text.Utf8.decode? same
  rw [decode?_encode, decode?_encode] at read
  exact Option.some.inj read

/-- Where percent signs are escaped, no two texts are written alike. -/
theorem encode_injective (marks : set '%' = true) (same : encode set first = encode set second) :
    first = second := by
  have bytes := congrArg decode same
  rw [decode_encode marks, decode_encode marks] at bytes
  exact utf8_injective bytes

/-! What is written. -/

theorem mem_escapes {bytes : List UInt8} (member : c ∈ bytes.flatMap escapeByte) : c = '%' ∨ IsDigit c := by
  obtain ⟨byte, -, written⟩ := List.mem_flatMap.mp member
  obtain ⟨high, low, same, highDigit, lowDigit⟩ := escapeByte_digits byte
  rw [same] at written
  simp only [List.mem_cons, List.not_mem_nil, or_false] at written
  rcases written with rfl | rfl | rfl
  · exact .inl rfl
  · exact .inr highDigit
  · exact .inr lowDigit

/-- A character of what is written is one of the text's that needs no escape, or
a part of an escape. -/
theorem mem_encode (member : c ∈ encode set text) :
    (c ∈ text ∧ set c = false) ∨ c = '%' ∨ IsDigit c := by
  obtain ⟨source, among, written⟩ := List.mem_flatMap.mp member
  rw [escape] at written
  split at written
  · exact .inr (mem_escapes written)
  · rename_i kept
    rw [List.mem_singleton] at written
    subst written
    exact .inl ⟨among, by simpa using kept⟩

theorem wellEscaped_nil : WellEscaped [] := by
  intro before after parts
  simp at parts

theorem wellEscaped_other (other : c ≠ '%') (rest : WellEscaped text) : WellEscaped (c :: text) := by
  intro before after parts
  cases before with
  | nil => exact absurd (List.cons.inj parts).1 other
  | cons head before => exact rest before after (List.cons.inj parts).2

theorem wellEscaped_escape (byte : UInt8) (rest : WellEscaped text) : WellEscaped (escapeByte byte ++ text) := by
  obtain ⟨high, low, written, highDigit, lowDigit⟩ := escapeByte_digits byte
  rw [written]
  intro before after parts
  cases before with
  | nil => exact ⟨high, low, text, (List.cons.inj parts).2.symm, highDigit, lowDigit⟩
  | cons head before =>
    have sign {c : Char} (digit : IsDigit c) : c ≠ '%' := fun same =>
      (isDigit_plain digit).2 (same ▸ List.mem_cons_self)
    have behind := wellEscaped_other (sign highDigit) (wellEscaped_other (sign lowDigit) rest)
    exact behind before after (List.cons.inj parts).2

/-- Where percent signs are escaped, each one that is written begins an escape. -/
theorem wellEscaped_encode (marks : set '%' = true) (text : List Char) : WellEscaped (encode set text) := by
  induction text with
  | nil => exact wellEscaped_nil
  | cons c text ih =>
    rw [encode, List.flatMap_cons, ← encode, escape]
    split
    · generalize String.utf8EncodeChar c = bytes
      induction bytes with
      | nil => exact ih
      | cons byte bytes later =>
        rw [List.flatMap_cons, List.append_assoc]
        exact wellEscaped_escape byte later
    · rename_i kept
      have other : c ≠ '%' := by
        intro same
        exact kept (same ▸ marks)
      exact wellEscaped_other other ih

end AuthorNames.PercentEscapes
