import AuthorNames.Text.Utf8
import Mathlib.Tactic.SplitIfs

/-! The bytes of a text are read as that text. Each of the four lengths of a
character leaves the reader where it began, so the texts of several characters
go through one after the other. -/
namespace AuthorNames.EncodedText
open AuthorNames.Text.Utf8

/-- A lead of two bytes. Those below `C2` would write an ASCII character. -/
theorem start_two (lead : UInt8) (low : 0xC2 ≤ lead.toNat) (high : lead.toNat ≤ 0xDF) :
    start lead = ([], .within 0 0x80 0xBF (lead.toNat - 0xC0)) := by
  have beyond : ¬ lead.toNat < 0x80 := by omega
  simp only [start, beyond, low, high, and_self, ↓reduceIte]

/-- A lead of three bytes. What may follow keeps overlong forms and surrogates
out. -/
theorem start_three (lead : UInt8) (low : 0xE0 ≤ lead.toNat) (high : lead.toNat ≤ 0xEF) :
    start lead = ([], .within 1 (if lead.toNat = 0xE0 then 0xA0 else 0x80)
      (if lead.toNat = 0xED then 0x9F else 0xBF) (lead.toNat - 0xE0)) := by
  have beyond : ¬ lead.toNat < 0x80 := by omega
  have notTwo : ¬ (0xC2 ≤ lead.toNat ∧ lead.toNat ≤ 0xDF) := by omega
  simp only [start, beyond, notTwo, ↓reduceIte]
  split_ifs <;> first | omega | simp_all

/-- A lead of four bytes. What may follow keeps overlong forms and values
beyond the last character out. -/
theorem start_four (lead : UInt8) (low : 0xF0 ≤ lead.toNat) (high : lead.toNat ≤ 0xF4) :
    start lead = ([], .within 2 (if lead.toNat = 0xF0 then 0x90 else 0x80)
      (if lead.toNat = 0xF4 then 0x8F else 0xBF) (lead.toNat - 0xF0)) := by
  have beyond : ¬ lead.toNat < 0x80 := by omega
  have notTwo : ¬ (0xC2 ≤ lead.toNat ∧ lead.toNat ≤ 0xDF) := by omega
  have notThree : ¬ (0xE1 ≤ lead.toNat ∧ lead.toNat ≤ 0xEF) := by omega
  simp only [start, beyond, notTwo, notThree, ↓reduceIte]
  split_ifs <;> first | omega | simp_all

variable {rest : List UInt8} {low high byte : UInt8} {value missing : Nat}

/-- A lead that begins a character gives nothing yet. -/
theorem partsFrom_lead {progress : Progress} (begins : start byte = ([], progress)) :
    partsFrom .fresh (byte :: rest) = partsFrom progress rest := by
  simp only [partsFrom, feed, begins, List.nil_append]

/-- A byte in the middle of a character adds six bits to its value. -/
theorem partsFrom_middle (lower : low.toNat ≤ byte.toNat) (upper : byte.toNat ≤ high.toNat) :
    partsFrom (.within (missing + 1) low high value) (byte :: rest) =
      partsFrom (.within missing 0x80 0xBF (value * 64 + (byte.toNat - 0x80))) rest := by
  have inside : low ≤ byte ∧ byte ≤ high :=
    ⟨UInt8.le_iff_toNat_le.mpr lower, UInt8.le_iff_toNat_le.mpr upper⟩
  simp only [partsFrom, feed, inside, and_self, ↓reduceIte, List.nil_append]

/-- The last byte of a character completes it. -/
theorem partsFrom_last (lower : low.toNat ≤ byte.toNat) (upper : byte.toNat ≤ high.toNat) :
    partsFrom (.within 0 low high value) (byte :: rest) =
      some (Char.ofNat (value * 64 + (byte.toNat - 0x80))) :: partsFrom .fresh rest := by
  have inside : low ≤ byte ∧ byte ≤ high :=
    ⟨UInt8.le_iff_toNat_le.mpr lower, UInt8.le_iff_toNat_le.mpr upper⟩
  simp only [partsFrom, feed, inside, and_self, ↓reduceIte, List.cons_append, List.nil_append]

private theorem toNat_ofNat_byte {n : Nat} (small : n < 256) : (UInt8.ofNat n).toNat = n := by
  rw [UInt8.toNat_ofNat', Nat.mod_eq_of_lt small]

/-- A byte that goes on with a character keeps six of its bits. -/
private theorem toNat_follow (n : Nat) : (UInt8.ofNat (n % 64 + 128)).toNat = n % 64 + 128 :=
  toNat_ofNat_byte (by omega)

/-- A byte that goes on with a character may follow any lead. -/
private theorem follow_within (n : Nat) : (0x80 : UInt8).toNat ≤ (UInt8.ofNat (n % 64 + 128)).toNat ∧
    (UInt8.ofNat (n % 64 + 128)).toNat ≤ (0xBF : UInt8).toNat := by
  change 128 ≤ _ ∧ _ ≤ 191
  rw [toNat_follow]
  omega

/-- A character is read as itself, and the reader is where it began. -/
theorem partsFrom_encodeChar (c : Char) (rest : List UInt8) :
    partsFrom .fresh (String.utf8EncodeChar c ++ rest) = some c :: partsFrom .fresh rest := by
  have code : c.val.toNat = c.toNat := rfl
  have valid : c.toNat < 0xD800 ∨ 0xDFFF < c.toNat ∧ c.toNat < 0x110000 := c.valid
  have meant {n : Nat} (same : n = c.toNat) : Char.ofNat n = c := by rw [same, Char.ofNat_toNat]
  have last := follow_within c.toNat
  have third := follow_within (c.toNat / 64)
  simp only [String.utf8EncodeChar, code]
  split_ifs with one two three
  · have lead := toNat_ofNat_byte (n := c.toNat) (by omega)
    have begins : start (UInt8.ofNat c.toNat) = ([some c], .fresh) := by
      have ascii : c.toNat < 0x80 := by omega
      simp only [start, lead, ascii, ↓reduceIte, Char.ofNat_toNat]
    simp only [List.cons_append, List.nil_append, partsFrom, feed, begins]
  · have lead := toNat_ofNat_byte (n := c.toNat / 64 % 32 + 192) (by omega)
    have begins := start_two (UInt8.ofNat (c.toNat / 64 % 32 + 192))
      (by rw [lead]; omega) (by rw [lead]; omega)
    simp only [List.cons_append, List.nil_append]
    rw [partsFrom_lead begins, partsFrom_last last.1 last.2, meant]
    rw [lead, toNat_follow]
    omega
  · have lead := toNat_ofNat_byte (n := c.toNat / 4096 % 16 + 224) (by omega)
    have begins := start_three (UInt8.ofNat (c.toNat / 4096 % 16 + 224))
      (by rw [lead]; omega) (by rw [lead]; omega)
    simp only [List.cons_append, List.nil_append]
    rw [partsFrom_lead begins, partsFrom_middle, partsFrom_last last.1 last.2, meant]
    · rw [lead, toNat_follow, toNat_follow]
      omega
    -- no overlong form and no surrogate: the bounds behind the two leads that could begin one
    · rw [lead, toNat_follow]
      split_ifs <;> simp only [UInt8.reduceToNat] <;> omega
    · rw [lead, toNat_follow]
      split_ifs <;> simp only [UInt8.reduceToNat] <;> omega
  · have lead := toNat_ofNat_byte (n := c.toNat / 262144 % 8 + 240) (by omega)
    have begins := start_four (UInt8.ofNat (c.toNat / 262144 % 8 + 240))
      (by rw [lead]; omega) (by rw [lead]; omega)
    simp only [List.cons_append, List.nil_append]
    rw [partsFrom_lead begins, partsFrom_middle, partsFrom_middle third.1 third.2,
      partsFrom_last last.1 last.2, meant]
    · rw [lead, toNat_follow, toNat_follow, toNat_follow]
      omega
    · rw [lead, toNat_follow]
      split_ifs <;> simp only [UInt8.reduceToNat] <;> omega
    · rw [lead, toNat_follow]
      split_ifs <;> simp only [UInt8.reduceToNat] <;> omega

/-- The bytes of a text are well-formed, and are its characters. -/
theorem parts_encode (text : List Char) : parts (encode text) = text.map some := by
  induction text with
  | nil => rfl
  | cons c rest ih =>
    rw [parts, encode, List.flatMap_cons, partsFrom_encodeChar, ← encode, ← parts, ih, List.map_cons]

theorem decode?_encode (text : List Char) : decode? (encode text) = some text := by
  rw [decode?, parts_encode]
  induction text with
  | nil => rfl
  | cons c rest ih => simp only [List.map_cons, List.mapM_cons, id_eq, ih]; rfl

theorem display_bytesOf (text : String) : display (bytesOf text) = text := by
  have shown (chars : List Char) : decodeLossy (encode chars) = chars := by
    simp only [decodeLossy, parts_encode, List.map_map, Function.comp_def, Option.getD_some, List.map_id']
  rw [display, bytesOf, shown, String.ofList_toList]

end AuthorNames.EncodedText
