import AuthorNames.Domain.AsciiName
import AuthorNames.Proofs.LossyDecoding
import AuthorNames.Proofs.ReadPaths
import AuthorNames.Proofs.WellFormedText

/-! The spelling of a domain name shows visible ASCII only. What of a name is
ASCII stays as it is, and delimiters and controls were refused; a label that is
not ASCII is written in letters and figures, behind those of its characters that
are. Reading such a label back adds none of ASCII. -/
namespace AuthorNames.PlainNames
open AuthorNames.Domain AuthorNames.Domain.Punycode
open AuthorNames.LossyDecoding (code_of_valid)
open AuthorNames.ReadPaths (mem_of_mem_piece)
open AuthorNames.WellFormedText (mapM_eq_some_iff)

/-- A character that any part of a URL may show: visible ASCII or a space. -/
def IsPlain (c : Char) : Prop :=
  0x20 ≤ c.toNat ∧ c.toNat < 0x7F

instance (c : Char) : Decidable (IsPlain c) :=
  inferInstanceAs (Decidable (_ ∧ _))

/-- Nothing in the text but what any part of a URL may show. -/
def Plain (text : List Char) : Prop :=
  ∀ c ∈ text, IsPlain c

instance (text : List Char) : Decidable (Plain text) :=
  List.decidableBAll IsPlain text

/-- What of the text is ASCII is visible or a space. -/
def PlainAscii (text : List Char) : Prop :=
  ∀ c ∈ text, c.toNat < 0x80 → IsPlain c

variable {text label shown first second : List Char} {w : Punycode.Writer} {c : Char}

theorem plain_nil : Plain [] := by
  decide

theorem plain_cons (here : IsPlain c) (rest : Plain text) : Plain (c :: text) :=
  List.forall_mem_cons.mpr ⟨here, rest⟩

theorem plain_append (front : Plain first) (back : Plain second) : Plain (first ++ second) :=
  List.forall_mem_append.mpr ⟨front, back⟩

/-! Labels in ASCII. -/

theorem plain_digit : ∀ value < 36, IsPlain (digit value) := by
  decide

theorem threshold_bounds (k bias : Nat) : 1 ≤ threshold k bias ∧ threshold k bias ≤ 26 := by
  unfold threshold
  split
  · omega
  · split <;> omega

theorem plain_encodeNumber (count bias k n : Nat) : Plain (encodeNumber count bias k n) := by
  induction count generalizing k n with
  | zero => exact plain_nil
  | succ count ih =>
    have bounds := threshold_bounds k bias
    rw [encodeNumber]
    split
    · exact plain_cons (plain_digit _ (by omega)) plain_nil
    · have rest := Nat.mod_lt (n - threshold k bias) (show 0 < 36 - threshold k bias by omega)
      exact plain_cons (plain_digit _ (by omega)) (ih _ _)

theorem plain_pass (basic target : Nat) (before : Plain w.written) : Plain (w.pass basic target c).written := by
  unfold Punycode.Writer.pass
  split
  · exact before
  · split
    · exact plain_append before (plain_encodeNumber _ _ _ _)
    · exact before

theorem plain_foldl_pass (basic target : Nat) (before : Plain w.written) :
    Plain (label.foldl (Punycode.Writer.pass basic target) w).written := by
  induction label generalizing w with
  | nil => exact before
  | cons c rest ih => exact ih (plain_pass basic target before)

theorem plain_encodeTargets (basic : Nat) (targets : List Nat) (reached : Nat) (before : Plain w.written) :
    Plain (encodeTargets label basic targets reached w).written := by
  induction targets generalizing reached w with
  | nil => exact before
  | cons target rest ih =>
    rw [encodeTargets]
    apply ih
    exact plain_foldl_pass basic target before

theorem plain_encode (ascii : PlainAscii label) : Plain (Punycode.encode label) := by
  unfold Punycode.encode
  apply plain_encodeTargets
  have basic : Plain (label.filter (·.toNat < 0x80)) := by
    intro c member
    obtain ⟨among, small⟩ := List.mem_filter.mp member
    exact ascii c among (by simpa using small)
  dsimp only
  split
  · exact plain_nil
  · exact plain_append basic (by decide)

/-! Labels read back. -/

/-- A character that is put into its place is beyond ASCII. -/
theorem mem_decodeFrom {count reached place bias : Nat} (beyond : 0x80 ≤ reached)
    (read : decodeFrom count label reached place bias text = some shown) (member : c ∈ shown) :
    c ∈ label ∨ 0x80 ≤ c.toNat := by
  induction count generalizing label reached place bias text with
  | zero => cases read
  | succ count ih =>
    rw [decodeFrom] at read
    split at read
    · cases read
      exact .inl member
    · obtain ⟨⟨sum, rest⟩, -, read⟩ := Option.bind_eq_some_iff.mp read
      dsimp only at read
      split at read
      · rename_i valid
        have larger : 0x80 ≤ reached + sum / (label.length + 1) := beyond.trans (Nat.le_add_right _ _)
        rcases ih larger read with among | above
        · rcases List.mem_append.mp among with before | behind
          · exact .inl (List.mem_of_mem_take before)
          · rcases List.mem_cons.mp behind with rfl | after
            · right
              rwa [code_of_valid (by simp only [Nat.isValidChar]; omega)]
            · exact .inl (List.mem_of_mem_drop after)
        · exact .inr above
      · cases read

theorem mem_decode (read : Punycode.decode? text = some shown) (member : c ∈ shown) :
    c ∈ text ∨ 0x80 ≤ c.toNat := by
  rcases mem_decodeFrom (Nat.le_refl _) read member with basic | beyond
  · rw [List.mem_reverse] at basic
    have among := (List.dropWhile_suffix _).subset (List.mem_of_mem_drop basic)
    exact .inl (List.mem_reverse.mp among)
  · exact .inr beyond

theorem plainAscii_readLabel (ascii : PlainAscii label) (read : readLabel label = some shown) :
    PlainAscii shown := by
  unfold readLabel at read
  split at read
  · dsimp only at read
    split at read
    · cases read
    · obtain ⟨decoded, came, read⟩ := Option.bind_eq_some_iff.mp read
      split at read
      · cases read
      · cases read
        intro c member small
        rcases mem_decode came member with among | beyond
        · exact ascii c (List.mem_of_mem_drop among) small
        · omega
  · cases read
    exact ascii

theorem plain_writeLabel (ascii : PlainAscii label) : Plain (writeLabel label) := by
  unfold writeLabel
  split
  · rename_i all
    intro c member
    exact ascii c member (by simpa [isAscii] using List.all_eq_true.mp all c member)
  · exact plain_append (by decide) (plain_encode ascii)

/-! Names. -/

theorem plain_joinLabels {labels : List (List Char)} (each : ∀ label ∈ labels, Plain label) :
    Plain (joinLabels labels) := by
  fun_induction joinLabels labels with
  | case1 => exact plain_nil
  | case2 label => exact each label List.mem_cons_self
  | case3 label rest _ ih =>
    obtain ⟨here, others⟩ := List.forall_mem_cons.mp each
    exact plain_append here (plain_cons (by decide) (ih others))

/-- What of a name is no delimiter is visible where it is ASCII. -/
theorem plainAscii_of_undelimited (undelimited : text.any isDelimiter = false) : PlainAscii text := by
  intro c member small
  have other := List.any_eq_false.mp undelimited c member
  simp only [isDelimiter, Bool.or_eq_true, decide_eq_true_eq, beq_iff_eq, not_or] at other
  exact ⟨by omega, by omega⟩

/-- **The spelling of a domain name is plain.** -/
theorem plain_asciiName (spelled : asciiName text = some shown) : Plain shown := by
  unfold asciiName at spelled
  obtain ⟨mapped, -, spelled⟩ := Option.bind_eq_some_iff.mp spelled
  dsimp only at spelled
  split at spelled
  · cases spelled
  · rename_i undelimited
    have ascii := plainAscii_of_undelimited (Bool.eq_false_iff.mpr undelimited)
    obtain ⟨labels, read, spelled⟩ := Option.bind_eq_some_iff.mp spelled
    split at spelled
    · cases spelled
    · split at spelled
      · cases spelled
      · cases spelled
        apply plain_joinLabels
        intro written member
        obtain ⟨label, among, rfl⟩ := List.mem_map.mp member
        apply plain_writeLabel
        have came : some label ∈ labels.map some := List.mem_map_of_mem among
        rw [← mapM_eq_some_iff.mp read] at came
        obtain ⟨piece, from_, readPiece⟩ := List.mem_map.mp came
        refine plainAscii_readLabel (fun c within => ?_) readPiece
        exact ascii c (mem_of_mem_piece from_ within).1

end AuthorNames.PlainNames
