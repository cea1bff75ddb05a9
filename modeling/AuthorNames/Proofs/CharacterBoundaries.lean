import AuthorNames.Proofs.EncodedText

/-! Where characters begin no reader is in doubt. Only the bytes from `80` to
`BF` go on with a character, so in front of any other byte whatever had begun is
broken off, and the bytes from there on are read as if nothing had been before
them. Line feeds are such bytes, and so is the first byte of every character. -/
namespace AuthorNames.CharacterBoundaries
open AuthorNames.Text.Utf8 AuthorNames.EncodedText

/-- Bytes that may go on with a character. -/
def IsFollower (byte : UInt8) : Prop :=
  0x80 ≤ byte.toNat ∧ byte.toNat ≤ 0xBF

instance : DecidablePred IsFollower :=
  fun byte => inferInstanceAs (Decidable (0x80 ≤ byte.toNat ∧ byte.toNat ≤ 0xBF))

/-- Nothing is waited for but bytes that may go on with a character. -/
def AwaitsFollower : Progress → Prop
  | .fresh => True
  | .within _ low high _ => 0x80 ≤ low.toNat ∧ high.toNat ≤ 0xBF

theorem start_awaits (byte : UInt8) : AwaitsFollower (start byte).2 := by
  simp only [start]
  split_ifs <;> simp [AwaitsFollower]

theorem feed_awaits {p : Progress} (byte : UInt8) : AwaitsFollower (feed p byte).2 := by
  cases p with
  | fresh => exact start_awaits byte
  | within missing low high value =>
    rw [feed]
    split
    · cases missing with
      | zero => trivial
      | succ missing => exact ⟨by decide, by decide⟩
    · exact start_awaits byte

/-- A byte that goes on with nothing breaks off what had begun. -/
theorem partsFrom_break {p : Progress} (awaits : AwaitsFollower p) {byte : UInt8}
    (begins : ¬ IsFollower byte) (rest : List UInt8) :
    partsFrom p (byte :: rest) = finish p ++ partsFrom .fresh (byte :: rest) := by
  cases p with
  | fresh => rfl
  | within missing low high value =>
    have outside : ¬ (low ≤ byte ∧ byte ≤ high) := by
      rintro ⟨above, below⟩
      exact begins ⟨Nat.le_trans awaits.1 (UInt8.le_iff_toNat_le.mp above),
        Nat.le_trans (UInt8.le_iff_toNat_le.mp below) awaits.2⟩
    simp only [partsFrom, feed, outside, ↓reduceIte, finish, List.cons_append, List.nil_append]

theorem partsFrom_append {p : Progress} (awaits : AwaitsFollower p) (front : List UInt8) {byte : UInt8}
    (begins : ¬ IsFollower byte) (rest : List UInt8) :
    partsFrom p (front ++ byte :: rest) = partsFrom p front ++ partsFrom .fresh (byte :: rest) := by
  -- Over any progress, since each byte of the front changes it.
  induction front generalizing p with
  | nil => exact partsFrom_break awaits begins rest
  | cons first front ih =>
    simp only [List.cons_append, partsFrom]
    rw [ih (feed_awaits first), List.append_assoc]
    rfl

/-- Bytes in front of one that begins something, and those from it on, are
decoded apart. -/
theorem decodeLossy_append (front : List UInt8) {byte : UInt8} (begins : ¬ IsFollower byte)
    (rest : List UInt8) : decodeLossy (front ++ byte :: rest) = decodeLossy front ++ decodeLossy (byte :: rest) := by
  simp only [decodeLossy, parts, partsFrom_append (p := .fresh) trivial front begins, List.map_append]

/-- The first byte of a character goes on with no other. -/
theorem encodeChar_begins (c : Char) :
    ∃ lead rest, String.utf8EncodeChar c = lead :: rest ∧ ¬ IsFollower lead := by
  have code : c.val.toNat = c.toNat := rfl
  have valid : c.toNat < 0xD800 ∨ 0xDFFF < c.toNat ∧ c.toNat < 0x110000 := c.valid
  simp only [String.utf8EncodeChar, code]
  split_ifs
  all_goals
    refine ⟨_, _, rfl, ?_⟩
    rw [IsFollower, UInt8.toNat_ofNat']
    omega

/-- A text in front of any bytes is read as that text. -/
theorem decodeLossy_encode_append (text : List Char) (rest : List UInt8) :
    decodeLossy (encode text ++ rest) = text ++ decodeLossy rest := by
  induction text with
  | nil => rfl
  | cons c text ih =>
    have first := partsFrom_encodeChar c (encode text ++ rest)
    rw [decodeLossy, parts, encode, List.flatMap_cons, ← encode, List.append_assoc, first, List.map_cons,
      ← parts, ← decodeLossy, ih]
    rfl

theorem decodeLossy_encode (text : List Char) : decodeLossy (encode text) = text := by
  simpa [decodeLossy, parts, partsFrom, finish] using decodeLossy_encode_append text []

/-- A text behind any bytes is read as that text, and what is in front of it as
if it ended there. -/
theorem decodeLossy_append_encode (front : List UInt8) (text : List Char) :
    decodeLossy (front ++ encode text) = decodeLossy front ++ text := by
  cases text with
  | nil => simp [encode]
  | cons c rest =>
    obtain ⟨lead, others, bytes, begins⟩ := encodeChar_begins c
    have whole : encode (c :: rest) = lead :: (others ++ encode rest) := by
      rw [encode, List.flatMap_cons, bytes, ← encode, List.cons_append]
    rw [whole, decodeLossy_append front begins, ← whole, decodeLossy_encode]

end AuthorNames.CharacterBoundaries
