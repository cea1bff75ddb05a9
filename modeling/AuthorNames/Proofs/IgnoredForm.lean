import AuthorNames.Proofs.IgnoredValues
import AuthorNames.Proofs.JsonForm

/-! Only a well-formed value is passed over. The reader keeps the brackets that
are open on a stack, so behind a value it has read the rest of the innermost
list or object, then the rest of the one around that, up to the end of the
outermost; what it owes the text is told by the stack. -/
namespace AuthorNames.IgnoredForm
open AuthorNames.Json AuthorNames.Json.Grammar AuthorNames.Json.Cursor AuthorNames.JsonForm
open AuthorNames.AcceptedSettings (bind_ok)

/-- What may stand behind an entry up to the end of its list or object. -/
inductive Rest (frame : Frame) : List Char → Prop where
  | closed {blanks : List Char} (between : Blanks blanks) : Rest frame (blanks ++ [closing frame])
  | more {before after text : List Char} (first : Blanks before) (second : Blanks after)
      (others : Formed (.entries frame) text) : Rest frame (before ++ ',' :: (after ++ text ++ [closing frame]))

/-- What may stand behind a value up to the end of all that is open around it. -/
inductive Closes : List Frame → List Char → Prop where
  | nothing : Closes [] []
  | bracket {frame : Frame} {frames : List Frame} {text outer : List Char} (inner : Rest frame text)
      (others : Closes frames outer) : Closes (frame :: frames) (text ++ outer)

/-- What stands in front of the next entry, if anything is open. -/
def Separator : List Frame → List Char → Prop
  | [], text => text = []
  | _ :: _, text => ∃ blanks, Blanks blanks ∧ text = blanks ++ [',']

variable {c c' : Cursor} {t : List Char} {frame : Frame} {frames opened : List Frame}

theorem blanks_append {a b : List Char} (first : Blanks a) (second : Blanks b) : Blanks (a ++ b) :=
  List.forall_mem_append.mpr ⟨first, second⟩

theorem closes_append {inner : List Frame} {a b : List Char} (first : Closes inner a) (second : Closes frames b) :
    Closes (inner ++ frames) (a ++ b) := by
  induction first with
  | nothing => exact second
  | bracket rest _ ih =>
    rw [List.append_assoc]
    exact .bracket rest ih

/-- An entry and what stands behind it are entries and the bracket behind them. -/
theorem entries_of_rest {entry : List Char} (formed : Formed (.entry frame) entry) (rest : Rest frame t) :
    ∃ entries, Formed (.entries frame) entries ∧ entry ++ t = entries ++ [closing frame] := by
  cases rest with
  | closed between => exact ⟨_, .last formed between, by simp⟩
  | more first second others => exact ⟨_, .more formed first second others, by simp⟩

/-- With what stands in front of it, an entry belongs to what is owed behind a value. -/
theorem closes_of_entry {separator blanks entry behind : List Char} (separates : Separator (frame :: frames) separator)
    (between : Blanks blanks) (formed : Formed (.entry frame) entry) (closes : Closes (frame :: frames) behind) :
    Closes (frame :: frames) (separator ++ (blanks ++ (entry ++ behind))) := by
  obtain ⟨before, first, rfl⟩ := separates
  cases closes with
  | @bracket _ _ inner outer rest others =>
    obtain ⟨entries, inside, whole⟩ := entries_of_rest formed rest
    have more := Rest.more first between inside
    have shape : before ++ [','] ++ (blanks ++ (entry ++ (inner ++ outer))) =
        before ++ ',' :: (blanks ++ entries ++ [closing frame]) ++ outer := by
      rw [← List.append_assoc entry, whole]
      simp
    rw [shape]
    exact .bracket more others

/-- A bracket and its first entry make a value. -/
theorem value_of_entry {blanks entry behind : List Char} (between : Blanks blanks)
    (formed : Formed (.entry frame) entry) (closes : Closes (frame :: frames) behind) :
    ∃ value outer, Value value ∧ Closes frames outer ∧
      opening frame :: (blanks ++ (entry ++ behind)) = value ++ outer := by
  cases closes with
  | @bracket _ _ inner outer rest others =>
    obtain ⟨entries, inside, whole⟩ := entries_of_rest formed rest
    refine ⟨_, outer, .full between inside, others, ?_⟩
    rw [← List.append_assoc entry, whole]
    simp

/-! Single values. -/

/-- A whole value, or the bracket in front of one. -/
def Begins : Option Frame → List Char → Prop
  | none, text => Value text
  | some frame, text => text = [opening frame]

theorem skipScalar_form {opened : Option Frame} (read : c.skipScalar = .ok (opened, c')) :
    ∃ t, Begins opened t ∧ c.rest = t ++ c'.rest := by
  unfold skipScalar at read
  split at read
  · cases read
  · rename_i tail ahead
    obtain ⟨c₁, word, made⟩ := map_ok read
    cases made
    exact ⟨"null".toList, .word (by decide), by rw [ahead, ← next_rest ahead, expectRest_form word]; rfl⟩
  · rename_i tail ahead
    obtain ⟨c₁, word, made⟩ := map_ok read
    cases made
    exact ⟨"true".toList, .word (by decide), by rw [ahead, ← next_rest ahead, expectRest_form word]; rfl⟩
  · rename_i tail ahead
    obtain ⟨c₁, word, made⟩ := map_ok read
    cases made
    exact ⟨"false".toList, .word (by decide), by rw [ahead, ← next_rest ahead, expectRest_form word]; rfl⟩
  · rename_i tail ahead
    obtain ⟨c₁, number, made⟩ := map_ok read
    obtain ⟨t, unsigned, whole⟩ := skipNumber_form number
    cases made
    exact ⟨'-' :: t, .number (.negative unsigned), by rw [ahead, ← next_rest ahead, whole]; rfl⟩
  · rename_i tail ahead
    obtain ⟨c₁, string, made⟩ := map_ok read
    obtain ⟨parts, fillers, whole⟩ := skipString_form string
    cases made
    refine ⟨quoted parts, .string ⟨parts, fillers, rfl⟩, ?_⟩
    rw [ahead, ← next_rest ahead, whole, quoted]
    simp
  · rename_i tail ahead
    cases read
    exact ⟨[opening .list], rfl, by rw [ahead, next_rest ahead]; rfl⟩
  · rename_i tail ahead
    cases read
    exact ⟨[opening .object], rfl, by rw [ahead, next_rest ahead]; rfl⟩
  · split at read
    · obtain ⟨c₁, number, made⟩ := map_ok read
      obtain ⟨t, unsigned, whole⟩ := skipNumber_form number
      cases made
      exact ⟨t, .number (.positive unsigned), whole⟩
    · cases read

/-! Brackets. -/

/-- Inside a bracket: it is closed, or its next entry begins. Behind a value there is a comma then. -/
theorem skipClosing_form {behindValue : Bool} (read : c.skipClosing behindValue (frame :: frames) = .ok (opened, c')) :
    ∃ blanks, Blanks blanks ∧
      ((∃ d : Cursor, c.rest = blanks ++ closing frame :: d.rest ∧ d.skipClosing true frames = .ok (opened, c')) ∨
        opened = frame :: frames ∧ c.rest = blanks ++ ((if behindValue then [','] else []) ++ c'.rest)) := by
  obtain ⟨blanks, between, whole⟩ := skipBlanks_form c
  refine ⟨blanks, between, ?_⟩
  unfold skipClosing at read
  dsimp only at read
  split at read
  · cases read
  · cases read
  · rename_i tail ahead
    exact .inl ⟨c.skipBlanks.next, by rw [whole, ahead, next_rest ahead]; rfl, read⟩
  · rename_i tail ahead
    exact .inl ⟨c.skipBlanks.next, by rw [whole, ahead, next_rest ahead]; rfl, read⟩
  · rename_i x tail ahead _ _
    refine .inr ?_
    cases behindValue with
    | false =>
      cases read
      exact ⟨rfl, whole⟩
    | true =>
      simp only [Bool.not_true, Bool.false_eq_true, if_false] at read
      split at read
      · rename_i comma
        cases read
        exact ⟨rfl, by rw [whole, ahead, comma, next_rest ahead]; rfl⟩
      · split at read <;> cases read

/-- Behind a value: the brackets that are closed there, and a comma if anything stays open. -/
theorem skipClosing_behind (read : c.skipClosing true frames = .ok (opened, c')) :
    ∃ inner closed separator, frames = inner ++ opened ∧ Closes inner closed ∧ Separator opened separator ∧
      c.rest = closed ++ (separator ++ c'.rest) := by
  induction frames generalizing c with
  | nil =>
    cases read
    exact ⟨[], [], [], rfl, .nothing, rfl, rfl⟩
  | cons frame frames ih =>
    obtain ⟨blanks, between, ⟨d, whole, read⟩ | ⟨rfl, whole⟩⟩ := skipClosing_form read
    · obtain ⟨inner, closed, separator, rfl, closes, separates, behind⟩ := ih read
      refine ⟨frame :: inner, _, separator, rfl, .bracket (.closed between) closes, separates, ?_⟩
      rw [whole, behind]
      simp
    · exact ⟨[], [], _, rfl, .nothing, ⟨blanks, between, rfl⟩, by rw [whole]; simp⟩

/-- In front of a value within a bracket stands its name, if it has one, and with the value that is an
entry. -/
theorem skipName_form {value behind : List Char} (read : skipName (frame :: frames) c = .ok c') {blanks : List Char}
    (between : Blanks blanks) (formed : Value value) (ahead : c'.rest = blanks ++ (value ++ behind)) :
    ∃ blanks entry, Blanks blanks ∧ Formed (.entry frame) entry ∧ c.rest = blanks ++ (entry ++ behind) := by
  cases frame with
  | list =>
    cases read
    exact ⟨blanks, value, between, .item formed, ahead⟩
  | object =>
    obtain ⟨first, before, whole⟩ := skipBlanks_form c
    unfold skipName at read
    dsimp only at read
    split at read
    · cases read
    · rename_i tail quote
      obtain ⟨d, named, colon⟩ := bind_ok read
      obtain ⟨parts, fillers, text⟩ := skipString_form named
      obtain ⟨second, within, point⟩ := colon_form colon
      refine ⟨first, _, before, .member ⟨parts, fillers, rfl⟩ within between formed, ?_⟩
      rw [whole, quote, ← next_rest quote, text, point, ahead, quoted]
      simp
    · cases read

/-! Values. -/

/-- What the loop has read when it ends: a value, and what is owed behind it. -/
def Passes (frames : List Frame) (c c' : Cursor) : Prop :=
  ∃ blanks value behind, Blanks blanks ∧ Value value ∧ Closes frames behind ∧
    c.rest = blanks ++ (value ++ (behind ++ c'.rest))

/-- The loop in front of the next entry, or at its end if nothing is open. -/
theorem leave_form {count : Nat} (ih : ∀ {frames c}, c.skipValues count frames = .ok c' → Passes frames c c')
    {separator : List Char} (separates : Separator frames separator)
    (read : (if frames.isEmpty then .ok c else do (← skipName frames c).skipValues count frames) = .ok c') :
    ∃ behind, Closes frames behind ∧ separator ++ c.rest = behind ++ c'.rest := by
  cases frames with
  | nil =>
    cases read
    cases separates
    exact ⟨[], .nothing, rfl⟩
  | cons frame frames =>
    obtain ⟨d, named, read⟩ := bind_ok read
    obtain ⟨blanks, value, behind, between, formed, closes, ahead⟩ := ih read
    obtain ⟨before, entry, first, entered, whole⟩ := skipName_form named between formed ahead
    exact ⟨_, closes_of_entry separates first entered closes, by rw [whole]; simp⟩

theorem skipValues_form {count : Nat} (read : c.skipValues count frames = .ok c') : Passes frames c c' := by
  induction count generalizing frames c with
  | zero => cases read
  | succ count ih =>
    obtain ⟨blanks, between, whole⟩ := skipBlanks_form c
    obtain ⟨⟨opened, c₁⟩, scalar, read⟩ := bind_ok read
    obtain ⟨start, begins, ahead⟩ := skipScalar_form scalar
    cases opened with
    | none =>
      dsimp only at read
      obtain ⟨⟨frames', c₂⟩, closing, onward⟩ := bind_ok read
      obtain ⟨inner, closed, separator, rfl, closes, separates, text⟩ := skipClosing_behind closing
      obtain ⟨behind, others, rest⟩ := leave_form ih separates onward
      refine ⟨blanks, start, closed ++ behind, between, begins, closes_append closes others, ?_⟩
      rw [whole, ahead, text, rest]
      simp
    | some frame =>
      dsimp only at read
      obtain ⟨⟨frames', c₂⟩, closing, onward⟩ := bind_ok read
      obtain ⟨inside, within, ⟨d, bracket, closing⟩ | ⟨rfl, entered⟩⟩ := skipClosing_form closing
      · -- The bracket is closed at once.
        obtain ⟨inner, closed, separator, rfl, closes, separates, text⟩ := skipClosing_behind closing
        obtain ⟨behind, others, rest⟩ := leave_form ih separates onward
        have empty : Value (opening frame :: (inside ++ [Grammar.closing frame])) := .empty within
        refine ⟨blanks, _, closed ++ behind, between, empty, closes_append closes others, ?_⟩
        rw [whole, ahead, begins, bracket, text, rest]
        simp
      · obtain ⟨d, named, onward⟩ := bind_ok onward
        obtain ⟨first, value, behind, before, formed, closes, inner⟩ := ih onward
        obtain ⟨second, entry, after, entering, text⟩ := skipName_form named before formed inner
        obtain ⟨value, outer, formed, closes, same⟩ :=
          value_of_entry (blanks_append within after) entering closes
        refine ⟨blanks, value, outer, between, formed, closes, ?_⟩
        rw [whole, ahead, begins, entered, text, ← List.append_assoc value, ← same]
        simp

/-- What is passed over where nobody asks for a value is one value. -/
theorem skipValue_form (read : c.skipValue = .ok c') :
    ∃ blanks value, Blanks blanks ∧ Value value ∧ c.rest = blanks ++ (value ++ c'.rest) := by
  obtain ⟨blanks, value, behind, between, formed, closes, whole⟩ := skipValues_form read
  cases closes
  exact ⟨blanks, value, between, formed, whole⟩

end AuthorNames.IgnoredForm
