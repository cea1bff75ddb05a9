import AuthorNames.Proofs.JsonReading

/-! A well-formed value that nobody asked for is passed over, however deep it
is. The reader keeps one loop for all depths, so what is said of a value is
where the loop goes on: behind the value, with the same brackets open. -/
namespace AuthorNames.IgnoredValues
open AuthorNames.Json AuthorNames.Json.Grammar AuthorNames.Json.Cursor AuthorNames.JsonReading

variable {t rest : List Char} {p : Position} {frame : Frame} {frames : List Frame} {count : Nat}

/-- The loop in front of an entry of the innermost bracket. -/
def enter (count : Nat) (frames : List Frame) (c : Cursor) : Except Fault Cursor := do
  skipValues count frames (← skipName frames c)

/-- The loop behind a value. -/
def leave (count : Nat) (frames : List Frame) (c : Cursor) : Except Fault Cursor := do
  let (frames, c) ← skipClosing true frames c
  if frames.isEmpty then .ok c else enter count frames c

/-! Single values. -/

/-- A digit is none of the characters by which other values are told. -/
theorem skipScalar_digit {d : Char} (digit : d.isDigit = true) :
    skipScalar ⟨d :: t, p⟩ = (skipNumber ⟨d :: t, p⟩).map (none, ·) := by
  unfold skipScalar
  split
  case h_9 same =>
    cases same
    exact if_pos digit
  all_goals
    rename_i same
    cases same
  all_goals exact absurd digit (by decide)

theorem unsigned_head (formed : Unsigned t) : ∃ d tail, t = d :: tail ∧ d.isDigit = true := by
  obtain ⟨whole, -, -⟩ := formed
  obtain ⟨d, tail, rfl, digit⟩ := digits_head whole.1
  exact ⟨d, _, rfl, digit⟩

theorem skipScalar_number (formed : Number t) (follows : Follows rest) :
    skipScalar ⟨t ++ rest, p⟩ = .ok (none, ⟨rest, advance p t⟩) := by
  cases formed with
  | positive unsigned =>
    have read := skipNumber_read (p := p) unsigned follows
    obtain ⟨d, tail, rfl, digit⟩ := unsigned_head unsigned
    rw [List.cons_append] at read ⊢
    rw [skipScalar_digit digit, read]
    rfl
  | negative unsigned =>
    simp only [List.cons_append, skipScalar, next_cons, skipNumber_read unsigned follows, advance_cons]
    rfl

theorem skipScalar_word (listed : t ∈ ["null".toList, "true".toList, "false".toList]) :
    skipScalar ⟨t ++ rest, p⟩ = .ok (none, ⟨rest, advance p t⟩) := by
  simp only [List.mem_cons, List.not_mem_nil, or_false] at listed
  rcases listed with rfl | rfl | rfl
  · exact congrArg (Except.map (none, ·)) (expectRest_self ['u', 'l', 'l'] ..)
  · exact congrArg (Except.map (none, ·)) (expectRest_self ['r', 'u', 'e'] ..)
  · exact congrArg (Except.map (none, ·)) (expectRest_self ['a', 'l', 's', 'e'] ..)

theorem skipScalar_string (string : AnyString t) :
    skipScalar ⟨t ++ rest, p⟩ = .ok (none, ⟨rest, advance p t⟩) := by
  obtain ⟨parts, fillers, rfl⟩ := string
  simp only [quoted, List.cons_append, List.append_assoc, List.nil_append, skipScalar, next_cons,
    skipString_read fillers]
  rfl

theorem skipValues_scalar {c c' : Cursor} (read : c.skipBlanks.skipScalar = .ok (none, c')) :
    skipValues (count + 1) frames c = leave count frames c' := by
  rw [skipValues, read]
  rfl

/-! Brackets. -/

theorem skipClosing_blanks {blanks : List Char} (between : Blanks blanks) (behindValue : Bool) :
    skipClosing behindValue (frame :: frames) ⟨blanks ++ t, p⟩ =
      skipClosing behindValue (frame :: frames) ⟨t, advance p blanks⟩ := by
  simp only [skipClosing, skipBlanks_append between]

theorem closing_shown (frame : Frame) : isBlank (closing frame) = false := by
  cases frame <;> decide

theorem skipClosing_closing (behindValue : Bool) :
    skipClosing behindValue (frame :: frames) ⟨closing frame :: t, p⟩ =
      skipClosing true frames ⟨t, p.past (closing frame)⟩ := by
  conv_lhs => unfold skipClosing
  rw [skipBlanks_cons (closing_shown frame)]
  cases frame <;> rfl

/-- The closing bracket, and with it the value that it ends. -/
theorem leave_closing {blanks : List Char} (between : Blanks blanks) :
    leave count (frame :: frames) ⟨blanks ++ closing frame :: rest, p⟩ =
      leave count frames ⟨rest, advance p (blanks ++ [closing frame])⟩ := by
  rw [leave, skipClosing_blanks between, skipClosing_closing, advance_append]
  rfl

/-- A comma, and the next entry. -/
theorem leave_comma {blanks : List Char} (between : Blanks blanks) :
    leave count (frame :: frames) ⟨blanks ++ ',' :: rest, p⟩ =
      enter count (frame :: frames) ⟨rest, advance p (blanks ++ [','])⟩ := by
  rw [leave, skipClosing_blanks between, advance_append]
  unfold skipClosing
  rw [skipBlanks_cons rfl]
  cases frame <;> rfl

theorem skipValues_blanks {blanks : List Char} (between : Blanks blanks) :
    skipValues (count + 1) frames ⟨blanks ++ t, p⟩ = skipValues (count + 1) frames ⟨t, advance p blanks⟩ := by
  rw [skipValues, skipValues, skipBlanks_append between]

theorem enter_blanks {blanks : List Char} (between : Blanks blanks) :
    enter (count + 1) (frame :: frames) ⟨blanks ++ t, p⟩ =
      enter (count + 1) (frame :: frames) ⟨t, advance p blanks⟩ := by
  cases frame with
  | list => exact skipValues_blanks between
  | object => simp only [enter, skipName, skipBlanks_append between]

/-- What a value or an entry begins with can be told from blanks and from the
end of what is open. -/
def Starts (t : List Char) : Prop :=
  ∃ c tail, t = c :: tail ∧ isBlank c = false ∧ c ≠ ']' ∧ c ≠ '\x7d'

theorem starts_append (starts : Starts t) : Starts (t ++ rest) := by
  obtain ⟨c, tail, rfl, shown⟩ := starts
  exact ⟨c, tail ++ rest, rfl, shown⟩

theorem starts_digit {d : Char} (digit : d.isDigit = true) : Starts (d :: t) := by
  refine ⟨d, t, rfl, ?_, ?_, ?_⟩
  · rw [← Bool.not_eq_true]
    intro blank
    have none : ∀ x ∈ [' ', '\t', '\n', '\r'], x.isDigit = false := by simp
    exact absurd digit (by rw [none d (isBlank_iff.mp blank)]; decide)
  · rintro rfl
    exact absurd digit (by decide)
  · rintro rfl
    exact absurd digit (by decide)

theorem formed_starts {part : Part} (formed : Formed part t) : Starts t := by
  induction formed with
  | word listed =>
    simp only [List.mem_cons, List.not_mem_nil, or_false] at listed
    rcases listed with rfl | rfl | rfl <;> exact ⟨_, _, rfl, by decide⟩
  | number number =>
    cases number with
    | positive unsigned =>
      obtain ⟨d, tail, rfl, digit⟩ := unsigned_head unsigned
      exact starts_digit digit
    | negative => exact ⟨_, _, rfl, by decide⟩
  | string string =>
    obtain ⟨parts, -, rfl⟩ := string
    exact ⟨_, _, rfl, by decide⟩
  | @empty frame | @full frame => cases frame <;> exact ⟨_, _, rfl, by decide⟩
  | item _ ih => exact ih
  | member named =>
    obtain ⟨parts, -, rfl⟩ := named
    exact ⟨_, _, rfl, by decide⟩
  | last _ _ ih | more _ _ _ _ ih => simpa only [List.append_assoc] using starts_append ih

/-- In front of an entry nothing is closed. -/
theorem skipClosing_starts (starts : Starts t) (frame : Frame) (frames : List Frame) (p : Position) :
    skipClosing false (frame :: frames) ⟨t, p⟩ = .ok (frame :: frames, ⟨t, p⟩) := by
  obtain ⟨c, tail, rfl, shown, notSquare, notCurly⟩ := starts
  unfold skipClosing
  rw [skipBlanks_cons shown]
  dsimp only
  split <;> simp_all

theorem opening_shown (frame : Frame) : isBlank (opening frame) = false := by
  cases frame <;> decide

theorem skipScalar_opening (frame : Frame) :
    skipScalar ⟨opening frame :: t, p⟩ = .ok (some frame, ⟨t, p.past (opening frame)⟩) := by
  cases frame <;> rfl

/-- An opening bracket that is followed by an entry. -/
theorem skipValues_opening {blanks : List Char} (between : Blanks blanks) (starts : Starts t) (count : Nat)
    (frame : Frame) (frames : List Frame) (p : Position) :
    skipValues (count + 1) frames ⟨opening frame :: (blanks ++ t), p⟩ =
      enter count (frame :: frames) ⟨t, advance p (opening frame :: blanks)⟩ := by
  have inside := skipClosing_starts starts frame frames (advance (p.past (opening frame)) blanks)
  rw [skipValues, skipBlanks_cons (opening_shown frame), skipScalar_opening]
  simp only [bind, Except.bind, skipClosing_blanks between, inside]
  rfl

theorem skipValues_empty {blanks : List Char} (between : Blanks blanks) :
    skipValues (count + 1) frames ⟨opening frame :: (blanks ++ closing frame :: rest), p⟩ =
      leave count frames ⟨rest, advance p (opening frame :: (blanks ++ [closing frame]))⟩ := by
  rw [skipValues, skipBlanks_cons (opening_shown frame), skipScalar_opening]
  simp only [bind, Except.bind, skipClosing_blanks between, skipClosing_closing, advance_cons, advance_append]
  rfl

/-- The name of a member, up to its value. -/
theorem enter_member {name before after : List Char} (named : AnyString name) (first : Blanks before)
    (second : Blanks after) (count : Nat) (frames : List Frame) (t : List Char) (p : Position) :
    enter (count + 1) (.object :: frames) ⟨name ++ (before ++ ':' :: (after ++ t)), p⟩ =
      skipValues (count + 1) (.object :: frames) ⟨t, advance p (name ++ (before ++ ':' :: after))⟩ := by
  obtain ⟨parts, fillers, rfl⟩ := named
  simp only [quoted, List.cons_append, List.append_assoc, List.nil_append, enter, skipName,
    skipBlanks_cons (c := '\x22') rfl, next_cons, skipString_read fillers, bind, Except.bind, Cursor.colon,
    skipBlanks_append first, skipBlanks_cons (c := ':') rfl, skipValues_blanks second]
  simp only [advance_cons, advance_append, advance_nil]

/-- What the loop does at a part of a value when the count allows for `k`
values: it goes on behind the part, and leaves the rest of the count as it is. -/
def PassedWith (k : Nat) : Part → List Char → Prop
  | .value, t => ∀ count frames rest p, Follows rest →
    skipValues (count + k) frames ⟨t ++ rest, p⟩ = leave count frames ⟨rest, advance p t⟩
  | .entry frame, t => ∀ count frames rest p, Follows rest →
    enter (count + k) (frame :: frames) ⟨t ++ rest, p⟩ = leave count (frame :: frames) ⟨rest, advance p t⟩
  | .entries frame, t => ∀ count frames rest p,
    enter (count + k) (frame :: frames) ⟨t ++ closing frame :: rest, p⟩ =
      leave count frames ⟨rest, advance p (t ++ [closing frame])⟩

theorem passed_scalar (starts : Starts t)
    (read : ∀ rest p, Follows rest → skipScalar ⟨t ++ rest, p⟩ = .ok (none, ⟨rest, advance p t⟩)) :
    PassedWith 1 .value t := by
  intro count frames rest p follows
  apply skipValues_scalar
  obtain ⟨c, tail, rfl, shown, -⟩ := starts
  rw [List.cons_append, skipBlanks_cons shown, ← List.cons_append, read rest p follows]

theorem passed_empty {blanks : List Char} (between : Blanks blanks) :
    PassedWith 1 .value (opening frame :: (blanks ++ [closing frame])) := by
  intro count frames rest p _
  simpa only [List.cons_append, List.append_assoc, List.nil_append] using skipValues_empty between

/-- A bracket costs one value more than what is inside. -/
theorem passed_full {k : Nat} {blanks : List Char} (before : Blanks blanks) (starts : Starts t)
    (inside : PassedWith k (.entries frame) t) :
    PassedWith (k + 1) .value (opening frame :: (blanks ++ t ++ [closing frame])) := by
  intro count frames rest p _
  have startsHere : Starts (t ++ closing frame :: rest) := starts_append starts
  have opened := skipValues_opening before startsHere (count + k) frame frames p
  have closed := inside count frames rest (advance p (opening frame :: blanks))
  simp only [List.cons_append, List.append_assoc, List.nil_append, ← Nat.add_assoc] at opened ⊢
  rw [opened, closed]
  simp only [advance_cons, advance_append]

theorem passed_member {k : Nat} {name before after : List Char} (named : AnyString name) (first : Blanks before)
    (second : Blanks after) (value : PassedWith (k + 1) .value t) :
    PassedWith (k + 1) (.entry .object) (name ++ before ++ ':' :: (after ++ t)) := by
  intro count frames rest p follows
  have entered := enter_member named first second (count + k) frames (t ++ rest) p
  have closed := value count (.object :: frames) rest (advance p (name ++ (before ++ ':' :: after))) follows
  simp only [List.cons_append, List.append_assoc, ← Nat.add_assoc] at entered closed ⊢
  rw [entered, closed]
  simp only [advance_cons, advance_append]

theorem follows_closing (frame : Frame) : Follows (closing frame :: rest) := by
  cases frame <;> exact follows_cons (by decide)

theorem passed_last {k : Nat} {blanks : List Char} (entry : PassedWith k (.entry frame) t) (behind : Blanks blanks) :
    PassedWith k (.entries frame) (t ++ blanks) := by
  intro count frames rest p
  have closed := entry count frames (blanks ++ closing frame :: rest) p
    (follows_append behind (follows_closing frame))
  rw [List.append_assoc, closed, leave_closing behind]
  simp only [List.append_assoc, advance_append]

/-- Entries cost as many values as the first and those behind it. -/
theorem passed_more {k j : Nat} {before after others : List Char} (entry : PassedWith k (.entry frame) t)
    (first : Blanks before) (second : Blanks after) (behind : PassedWith (j + 1) (.entries frame) others) :
    PassedWith (k + (j + 1)) (.entries frame) (t ++ before ++ ',' :: (after ++ others)) := by
  intro count frames rest p
  have comma : Follows (before ++ ',' :: (after ++ (others ++ closing frame :: rest))) :=
    follows_append first (follows_cons (by decide))
  have closed := entry (count + (j + 1)) frames _ p comma
  have next := behind count frames rest (advance (advance (advance p t) (before ++ [','])) after)
  have cost : count + (k + (j + 1)) = count + (j + 1) + k := by omega
  simp only [List.cons_append, List.append_assoc, cost] at closed ⊢
  rw [closed, leave_comma first, ← Nat.add_assoc, enter_blanks second, Nat.add_assoc, next]
  simp only [advance_cons, advance_append, advance_nil]

/-- Every part is passed, and has room for as many values as it costs. -/
theorem formed_passed {part : Part} (formed : Formed part t) :
    ∃ k, k + 1 ≤ t.length ∧ PassedWith (k + 1) part t := by
  -- What has no brackets costs one value, and no text is empty.
  have single {text : List Char} (formed : Formed .value text)
      (read : ∀ rest p, Follows rest → skipScalar ⟨text ++ rest, p⟩ = .ok (none, ⟨rest, advance p text⟩)) :
      ∃ k, k + 1 ≤ text.length ∧ PassedWith (k + 1) .value text := by
    have starts := formed_starts formed
    refine ⟨0, ?_, passed_scalar starts read⟩
    obtain ⟨c, tail, rfl, -⟩ := starts
    simp
  induction formed with
  | word listed => exact single (.word listed) fun _ _ _ => skipScalar_word listed
  | number number => exact single (.number number) fun _ _ follows => skipScalar_number number follows
  | string string => exact single (.string string) fun _ _ _ => skipScalar_string string
  | empty between => exact ⟨0, by simp, passed_empty between⟩
  | full before inside ih =>
    obtain ⟨k, room, passed⟩ := ih
    exact ⟨k + 1, by simp; omega, passed_full before (formed_starts inside) passed⟩
  | item _ ih =>
    obtain ⟨k, room, passed⟩ := ih
    exact ⟨k, room, fun count frames => passed count (.list :: frames)⟩
  | member named first second _ ih =>
    obtain ⟨k, room, passed⟩ := ih
    exact ⟨k, by simp; omega, passed_member named first second passed⟩
  | last _ behind ih =>
    obtain ⟨k, room, passed⟩ := ih
    exact ⟨k, by simp; omega, passed_last passed behind⟩
  | more _ first second _ entryPassed othersPassed =>
    obtain ⟨k, room, passed⟩ := entryPassed
    obtain ⟨j, roomThere, passedThere⟩ := othersPassed
    refine ⟨k + (j + 1), by simp; omega, ?_⟩
    have both := passed_more passed first second passedThere
    rwa [show k + 1 + (j + 1) = k + (j + 1) + 1 by omega] at both

/-- A value that nobody asked for is passed over to its end. -/
theorem skipValue_read {blanks : List Char} (between : Blanks blanks) (value : Value t)
    (follows : Follows rest) :
    skipValue ⟨blanks ++ (t ++ rest), p⟩ = .ok ⟨rest, advance p (blanks ++ t)⟩ := by
  obtain ⟨k, room, passed⟩ := formed_passed value
  obtain ⟨spare, enough⟩ : ∃ spare, (blanks ++ (t ++ rest)).length + 1 = spare + k + 1 := by
    refine ⟨(blanks ++ (t ++ rest)).length - k, ?_⟩
    simp only [List.length_append]
    omega
  have read := passed spare [] rest (advance p blanks) follows
  rw [skipValue, enough, skipValues_blanks between, Nat.add_assoc, read, advance_append]
  rfl

end AuthorNames.IgnoredValues
