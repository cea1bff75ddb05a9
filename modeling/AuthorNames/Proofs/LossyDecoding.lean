import AuthorNames.Text.Utf8
import Mathlib.Algebra.Group.Nat.Defs
import Mathlib.Data.List.Count

/-! Line feeds go through text and bytes unchanged: the bytes of a text hold as
many as the text, and bytes that hold none are never read as a text with one,
however ill-formed they are. -/
namespace AuthorNames.LossyDecoding
open AuthorNames.Text.Utf8

theorem encode_ascii {c : Char} (ascii : c.toNat < 128) :
    String.utf8EncodeChar c = [UInt8.ofNat c.toNat] := by
  have small : c.val.toNat ≤ 0x7f := Nat.le_of_lt_succ ascii
  simp only [String.utf8EncodeChar, small, ↓reduceIte]
  rfl

/-- No byte of any other character can be taken for an ASCII character. -/
theorem encode_beyond_ascii {c : Char} (beyond : 128 ≤ c.toNat) {byte : UInt8}
    (member : byte ∈ String.utf8EncodeChar c) : 128 ≤ byte.toNat := by
  have value : c.toNat = c.val.toNat := rfl
  have large : ¬ c.val.toNat ≤ 0x7f := by omega
  simp only [String.utf8EncodeChar, large, ↓reduceIte] at member
  split at member
  · simp only [List.mem_cons, List.not_mem_nil, or_false] at member
    rcases member with rfl | rfl <;> rw [UInt8.toNat_ofNat'] <;> omega
  · split at member <;> simp only [List.mem_cons, List.not_mem_nil, or_false] at member
    · rcases member with rfl | rfl | rfl <;> rw [UInt8.toNat_ofNat'] <;> omega
    · rcases member with rfl | rfl | rfl | rfl <;> rw [UInt8.toNat_ofNat'] <;> omega

theorem count_feed_encodeChar (c : Char) :
    (String.utf8EncodeChar c).count 10 = if c = '\n' then 1 else 0 := by
  split
  · rename_i feed
    subst feed
    rfl
  · rename_i other
    rw [List.count_eq_zero]
    intro member
    by_cases ascii : c.toNat < 128
    · rw [encode_ascii ascii, List.mem_singleton] at member
      have code := congrArg UInt8.toNat member
      rw [UInt8.toNat_ofNat', Nat.mod_eq_of_lt (by omega)] at code
      exact other (Char.ext (UInt32.toNat_inj.mp code.symm))
    · exact absurd (encode_beyond_ascii (Nat.le_of_not_lt ascii) member) (by decide)

/-- A text and its bytes hold equally many line feeds. -/
theorem count_feed_encode (text : List Char) : (encode text).count 10 = text.count '\n' := by
  induction text with
  | nil => rfl
  | cons c rest ih =>
    rw [encode, List.flatMap_cons, List.count_append, ← encode, ih, count_feed_encodeChar, List.count_cons,
      Nat.add_comm]
    simp only [beq_iff_eq]

/-- What has begun can only end as a character beyond ASCII: so much do the
bytes still to come, of which the next is at least `low`, make of the value. -/
def EndsBeyondAscii : Progress → Prop
  | .fresh => True
  | .within missing low _ value =>
    128 ≤ low.toNat ∧ 128 ≤ (value * 64 + (low.toNat - 128)) * 64 ^ missing

theorem code_of_valid {value : Nat} (valid : value.isValidChar) :
    (Char.ofNat value).toNat = value := by
  rw [Char.ofNat, dif_pos valid]
  rfl

theorem char_ne_ascii {value : Nat} (beyond : 128 ≤ value) {c : Char} (ascii : c.toNat < 128)
    (written : c.toNat ≠ 0) : Char.ofNat value ≠ c := by
  intro same
  have code := congrArg Char.toNat same
  by_cases valid : value.isValidChar
  · rw [code_of_valid valid] at code
    omega
  · rw [Char.ofNat, dif_neg valid] at code
    exact written code.symm

/-- At the beginning of a character only a line feed is read as one. -/
theorem start_keeps_feeds (byte : UInt8) :
    EndsBeyondAscii (start byte).2 ∧ (some '\n' ∈ (start byte).1 → byte = 10) := by
  have bound := byte.toNat_lt
  unfold start
  dsimp only
  split
  · rename_i ascii
    refine ⟨trivial, fun member => ?_⟩
    have code := congrArg Char.toNat (Option.some.inj (List.mem_singleton.mp member)).symm
    have valid : byte.toNat.isValidChar := Or.inl (by omega)
    rw [code_of_valid valid] at code
    exact UInt8.toNat_inj.mp code
  · repeat' split
    all_goals simp [EndsBeyondAscii]
    all_goals omega

/-- Inside a character there are no line feeds: one that breaks it off is read
at the beginning of the next. -/
theorem feed_keeps_feeds {p : Progress} (beyond : EndsBeyondAscii p) (byte : UInt8) :
    EndsBeyondAscii (feed p byte).2 ∧ (some '\n' ∈ (feed p byte).1 → byte = 10) := by
  cases p with
  | fresh => exact start_keeps_feeds byte
  | within missing low high value =>
    obtain ⟨lowBeyond, valueBeyond⟩ := beyond
    unfold feed
    dsimp only
    split
    · rename_i inside
      -- A byte that fits is no less than the least one, so the bound on the value
      -- holds for the value that the byte makes of it.
      have above : low.toNat ≤ byte.toNat := inside.1
      have raised : (value * 64 + (low.toNat - 128)) * 64 ^ missing ≤
          (value * 64 + (byte.toNat - 128)) * 64 ^ missing := by
        apply Nat.mul_le_mul_right
        omega
      cases missing with
      | zero =>
        refine ⟨trivial, fun member => ?_⟩
        have feed := Option.some.inj (List.mem_singleton.mp member)
        rw [Nat.pow_zero, Nat.mul_one, Nat.mul_one] at raised
        rw [Nat.pow_zero, Nat.mul_one] at valueBeyond
        exact absurd feed.symm (char_ne_ascii (Nat.le_trans valueBeyond raised) (by decide) (by decide))
      | succ missing =>
        refine ⟨⟨by decide, ?_⟩, by simp⟩
        have shifted (n : Nat) : n * 64 ^ (missing + 1) = n * 64 * 64 ^ missing := by
          rw [Nat.pow_succ, Nat.mul_comm (64 ^ missing), Nat.mul_assoc]
        rw [shifted] at raised valueBeyond
        rw [shifted] at raised
        have least : (0x80 : UInt8).toNat - 128 = 0 := rfl
        rw [least, Nat.add_zero]
        exact Nat.le_trans valueBeyond raised
    · obtain ⟨next, feeds⟩ := start_keeps_feeds byte
      exact ⟨next, fun member => feeds (by simpa using member)⟩

/-- From any well-begun character on, a text with a line feed has its byte. -/
theorem feed_mem_of_partsFrom {bytes : List UInt8} {p : Progress} (beyond : EndsBeyondAscii p)
    (member : some '\n' ∈ partsFrom p bytes) : 10 ∈ bytes := by
  induction bytes generalizing p with
  | nil => cases p <;> simp [partsFrom, finish] at member
  | cons byte rest ih =>
    obtain ⟨next, feeds⟩ := feed_keeps_feeds beyond byte
    rcases List.mem_append.mp member with here | later
    · rw [feeds here]
      exact List.mem_cons_self
    · exact List.mem_cons_of_mem _ (ih next later)

/-- A text read from bytes without a line feed has none. -/
theorem feed_notMem_decodeLossy {bytes : List UInt8} (feedless : 10 ∉ bytes) :
    '\n' ∉ decodeLossy bytes := by
  intro member
  obtain ⟨part, partMember, read⟩ := List.mem_map.mp member
  cases part with
  | none => exact absurd read (by decide)
  | some c =>
    have same : c = '\n' := read
    exact feedless (feed_mem_of_partsFrom (p := .fresh) trivial (same ▸ partMember))

end AuthorNames.LossyDecoding
