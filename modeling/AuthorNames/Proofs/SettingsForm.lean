import AuthorNames.Proofs.IgnoredForm
import AuthorNames.Proofs.SettingsText

/-! An object is read as settings only if its members are taken for them: each
name that counts stands there at most once, and its value is `null` or of the
kind of that setting. -/
namespace AuthorNames.SettingsForm
open AuthorNames.Json AuthorNames.Json.Grammar AuthorNames.Json.Cursor AuthorNames.JsonForm
open AuthorNames.IgnoredForm AuthorNames.GivenOnce AuthorNames.Settings AuthorNames.SettingsText
open AuthorNames.AcceptedSettings (bind_ok)

variable {α : Type} {writes : α → List Char → Prop} {c c' : Cursor} {t : List Char} {g g' : Given}
  {members : List Member}

/-! One value. -/

/-- A reader that reads only what is written so, with blanks in front. -/
def ReadsOnly (read : ValueReader α) (writes : α → List Char → Prop) : Prop :=
  ∀ {c c' : Cursor} {value : α}, read c = .ok (value, c') →
    ∃ blanks t, Blanks blanks ∧ writes value t ∧ c.rest = blanks ++ (t ++ c'.rest)

theorem wrongType_ne_ok (expected : String) (c : Cursor) (value : α) : wrongType expected c ≠ .ok value := by
  intro made
  unfold wrongType at made
  dsimp only at made
  split at made
  case h_8 =>
    split at made
    · obtain ⟨_, -, made⟩ := bind_ok made
      cases made
    · cases made
  -- What is of the wrong type may have to be read first.
  all_goals first
    | cases made
    | obtain ⟨_, -, made⟩ := bind_ok made
      cases made

/-- Blanks, a quote and what is read as a string behind it are a string. -/
theorem quoted_form {tail s : List Char} (ahead : c.skipBlanks.rest = '\x22' :: tail)
    (read : c.skipBlanks.next.string = .ok (s, c')) :
    ∃ blanks t, Blanks blanks ∧ StringOf (String.ofList s) t ∧ c.rest = blanks ++ (t ++ c'.rest) := by
  obtain ⟨blanks, between, whole⟩ := skipBlanks_ahead ahead
  obtain ⟨parts, spelled, text⟩ := string_form read
  refine ⟨blanks, quoted parts, between, ⟨parts, by rwa [String.toList_ofList], rfl⟩, ?_⟩
  rw [whole, ← next_rest ahead, text, quoted]
  simp

theorem readString_only : ReadsOnly readString StringOf := by
  intro c c' value read
  unfold readString at read
  dsimp only at read
  split at read
  · cases read
  · rename_i tail ahead
    obtain ⟨⟨s, c₁⟩, string, made⟩ := bind_ok read
    cases made
    exact quoted_form ahead string
  · exact absurd read (wrongType_ne_ok _ _ _)

theorem readPolicyName_only : ReadsOnly readPolicyName PolicyOf := by
  intro c c' policy read
  unfold readPolicyName at read
  dsimp only at read
  split at read
  · cases read
  · rename_i tail ahead
    obtain ⟨⟨s, c₁⟩, string, made⟩ := bind_ok read
    dsimp only at made
    split at made
    · rename_i policy' known
      cases made
      have named : String.ofList s = policyName policy := by
        unfold policyNamed? at known
        split at known
        · rename_i same
          cases known
          exact same
        · rename_i same
          cases known
          exact same
        · cases known
      have form := quoted_form ahead string
      rwa [named] at form
    · cases made
  · exact absurd read (wrongType_ne_ok _ _ _)

theorem readNull_form (read : readNull c = .ok c') :
    ∃ blanks, Blanks blanks ∧ c.rest = blanks ++ ("null".toList ++ c'.rest) := by
  unfold readNull at read
  dsimp only at read
  split at read
  · cases read
  · rename_i tail ahead
    obtain ⟨blanks, between, whole⟩ := skipBlanks_ahead ahead
    refine ⟨blanks, between, ?_⟩
    rw [whole, ← next_rest ahead, expectRest_form read]
    rfl
  · exact absurd read (wrongType_ne_ok _ _ _)

theorem readPolicy_only : ReadsOnly readPolicy PolicyText := by
  intro c c' policy read
  obtain ⟨blanks, between, start⟩ := skipBlanks_form c
  unfold readPolicy at read
  dsimp only at read
  split at read
  · cases read
  · obtain ⟨inner, t, within, named, whole⟩ := readPolicyName_only read
    refine ⟨blanks ++ inner, t, blanks_append between within, .name named, ?_⟩
    rw [start, whole, List.append_assoc]
  · rename_i tail ahead
    obtain ⟨⟨policy', c₁⟩, name, read⟩ := bind_ok read
    obtain ⟨c₂, colon, read⟩ := bind_ok read
    obtain ⟨c₃, null, read⟩ := bind_ok read
    obtain ⟨first, spelled, before, named, text⟩ := readPolicyName_only name
    obtain ⟨second, behind, point⟩ := colon_form colon
    obtain ⟨third, inside, nothing⟩ := readNull_form null
    dsimp only at read
    split at read
    · cases read
    · rename_i rest ended
      cases read
      obtain ⟨fourth, last, closed⟩ := skipBlanks_ahead ended
      refine ⟨blanks, _, between, .member (.full before (.last (.written named behind inside) last)), ?_⟩
      rw [start, ahead, ← next_rest ahead, text, point, nothing, closed, next_rest ended]
      simp
    · cases read
  · cases read

theorem readWholeNumber_only : ReadsOnly readWholeNumber SecondsOf := by
  have whole {numeral : Numeral} {d d' : Cursor} {seconds : UInt64}
      (read : wholeNumber numeral d = .ok (seconds, d')) :
      ∃ n, numeral = .natural n ∧ seconds = UInt64.ofNat n ∧ d' = d := by
    cases numeral with
    | natural n =>
      cases read
      exact ⟨n, rfl, rfl, rfl⟩
    | negative n => cases read
    | float x => cases read
  intro c c' seconds read
  obtain ⟨blanks, between, start⟩ := skipBlanks_form c
  unfold readWholeNumber at read
  dsimp only at read
  split at read
  · cases read
  · obtain ⟨⟨numeral, c₁⟩, number, made⟩ := bind_ok read
    obtain ⟨n, rfl, -, -⟩ := whole made
    cases (number_form number).1
  · split at read
    · obtain ⟨⟨numeral, c₁⟩, number, made⟩ := bind_ok read
      obtain ⟨n, rfl, rfl, rfl⟩ := whole made
      obtain ⟨-, fits, t, written, text⟩ := number_form number
      have value : (UInt64.ofNat n).toNat = n := by
        have small : n < 2 ^ 64 := Nat.lt_succ_of_le fits
        rw [UInt64.toNat_ofNat', Nat.mod_eq_of_lt small]
      refine ⟨blanks, t, between, ?_, by rw [start, text]⟩
      rw [SecondsOf, value]
      exact written
    · exact absurd read (wrongType_ne_ok _ _ _)

theorem readOptional_only {read : ValueReader α} (only : ReadsOnly read writes) :
    ReadsOnly (readOptional read) (OrNull writes) := by
  intro c c' value made
  obtain ⟨blanks, between, start⟩ := skipBlanks_form c
  unfold readOptional at made
  dsimp only at made
  split at made
  · rename_i tail ahead
    obtain ⟨c₁, word, made⟩ := bind_ok made
    cases made
    refine ⟨blanks, _, between, rfl, ?_⟩
    rw [start, ahead, ← next_rest ahead, expectRest_form word]
    rfl
  · obtain ⟨⟨value', c₁⟩, inner, made⟩ := bind_ok made
    cases made
    obtain ⟨more, t, within, written, text⟩ := only inner
    refine ⟨blanks ++ more, t, blanks_append between within, written, ?_⟩
    rw [start, text, List.append_assoc]

/-! Members. -/

/-- What stands behind a member's name: a colon, and the text of its value. -/
def Assigns (c : Cursor) (t : List Char) (c' : Cursor) : Prop :=
  ∃ before after, Blanks before ∧ Blanks after ∧ c.rest = before ++ ':' :: (after ++ (t ++ c'.rest))

theorem readMember_form {name : String} {before : Option (Option α)} {read : ValueReader α}
    (only : ReadsOnly read writes) {put : Option α → Given} (made : readMember name before read put c = .ok (g, c')) :
    before = none ∧ ∃ value t, OrNull writes value t ∧ g = put value ∧ Assigns c t c' := by
  unfold readMember at made
  split at made
  · cases made
  · obtain ⟨c₁, colon, made⟩ := bind_ok made
    obtain ⟨⟨value, c₂⟩, read, made⟩ := bind_ok made
    cases made
    obtain ⟨first, between, whole⟩ := colon_form colon
    obtain ⟨second, t, after, written, text⟩ := readOptional_only only read
    exact ⟨rfl, value, t, written, rfl, first, second, between, after, by rw [whole, text]⟩

theorem completing_self (g : Given) : Completing g g [] := by
  have same {β : Type} {writes : β → List Char → Prop} (field : Option β) : Completes writes field [] field := by
    cases field with
    | none => rfl
    | some value => exact ⟨rfl, rfl⟩
  exact ⟨same _, same _, same _, same _, fun _ member => nomatch member⟩

/-- A member whose name counts, and whose field has a reader of its own. -/
theorem counted_form {name : String} {field : Option (Option α)} {read : ValueReader α}
    {put : Option α → Given} (only : ReadsOnly read writes)
    (counted : ∀ c, readNamed g name c = readMember name field read put c)
    (made : readNamed g name c = .ok (g', c')) :
    ∃ value t, g' = put value ∧ Assigns c t c' ∧ ∀ values after,
      Completes (OrNull writes) (some value) values after → Completes (OrNull writes) field (t :: values) after := by
  rw [counted] at made
  obtain ⟨rfl, value, t, written, rfl, assigns⟩ := readMember_form only made
  refine ⟨value, t, rfl, assigns, ?_⟩
  rintro values after ⟨rfl, rfl⟩
  exact ⟨t, written, rfl⟩

theorem uncounted_form {name : String} (other : name ∉ memberNames) (made : readNamed g name c = .ok (g', c')) :
    g' = g ∧ ∃ t, Value t ∧ Assigns c t c' := by
  rw [readNamed_other other] at made
  obtain ⟨c₁, colon, made⟩ := bind_ok made
  obtain ⟨c₂, skipped, made⟩ := bind_ok made
  cases made
  obtain ⟨first, between, whole⟩ := colon_form colon
  obtain ⟨second, t, after, value, text⟩ := skipValue_form skipped
  exact ⟨rfl, t, value, first, second, between, after, by rw [whole, text]⟩

theorem completes_same {key : String} {field after : Option α}
    (completes : Completes writes field (t :: valuesOf key members) after) :
    Completes writes field (valuesOf key ((key, t) :: members)) after := by
  rwa [valuesOf_cons_same]

theorem completes_other {key other : String} (different : other ≠ key) {field after : Option α}
    (completes : Completes writes field (valuesOf key members) after) :
    Completes writes field (valuesOf key ((other, t) :: members)) after := by
  rwa [valuesOf_cons_other different]

theorem others_counted {name : String} (counted : name ∈ memberNames)
    (others : ∀ m ∈ members, m.1 ∉ memberNames → Value m.2) :
    ∀ m ∈ (name, t) :: members, m.1 ∉ memberNames → Value m.2 :=
  List.forall_mem_cons.mpr ⟨fun uncounted => absurd counted uncounted, others⟩

/-- One member: with it, what the others make of the rest is made of all. -/
theorem readNamed_form {name : String} (made : readNamed g name c = .ok (g', c')) :
    ∃ t, Assigns c t c' ∧
      ∀ after members, Completing g' after members → Completing g after ((name, t) :: members) := by
  by_cases isBase : name = "base_url"
  · subst isBase
    obtain ⟨value, t, rfl, assigns, adds⟩ := counted_form readString_only (readNamed_baseUrl g) made
    refine ⟨t, assigns, ?_⟩
    rintro after members ⟨base, domain, policy, timeout, others⟩
    exact ⟨completes_same (adds _ _ base), completes_other (by decide) domain,
      completes_other (by decide) policy, completes_other (by decide) timeout, others_counted (by decide) others⟩
  by_cases isDomain : name = "address_domain"
  · subst isDomain
    obtain ⟨value, t, rfl, assigns, adds⟩ := counted_form readString_only (readNamed_addressDomain g) made
    refine ⟨t, assigns, ?_⟩
    rintro after members ⟨base, domain, policy, timeout, others⟩
    exact ⟨completes_other (by decide) base, completes_same (adds _ _ domain),
      completes_other (by decide) policy, completes_other (by decide) timeout, others_counted (by decide) others⟩
  by_cases isPolicy : name = "on_missing_name"
  · subst isPolicy
    obtain ⟨value, t, rfl, assigns, adds⟩ := counted_form readPolicy_only (readNamed_onMissingName g) made
    refine ⟨t, assigns, ?_⟩
    rintro after members ⟨base, domain, policy, timeout, others⟩
    exact ⟨completes_other (by decide) base, completes_other (by decide) domain,
      completes_same (adds _ _ policy), completes_other (by decide) timeout, others_counted (by decide) others⟩
  by_cases isTimeout : name = "timeout_secs"
  · subst isTimeout
    obtain ⟨value, t, rfl, assigns, adds⟩ := counted_form readWholeNumber_only (readNamed_timeoutSecs g) made
    refine ⟨t, assigns, ?_⟩
    rintro after members ⟨base, domain, policy, timeout, others⟩
    exact ⟨completes_other (by decide) base, completes_other (by decide) domain,
      completes_other (by decide) policy, completes_same (adds _ _ timeout), others_counted (by decide) others⟩
  have other : name ∉ memberNames := by simp [memberNames, isBase, isDomain, isPolicy, isTimeout]
  obtain ⟨rfl, t, formed, assigns⟩ := uncounted_form other made
  refine ⟨t, assigns, ?_⟩
  rintro after members ⟨base, domain, policy, timeout, others⟩
  exact ⟨completes_other isBase base, completes_other isDomain domain, completes_other isPolicy policy,
    completes_other isTimeout timeout, List.forall_mem_cons.mpr ⟨fun _ => formed, others⟩⟩

/-! Objects. -/

/-- What stands in front of a member: blanks, and a comma between them if it is not the first. -/
def Opens : Bool → List Char → Prop
  | true, text => Blanks text
  | false, text => ∃ before after, Blanks before ∧ Blanks after ∧ text = before ++ ',' :: after

/-- What is left of an object with these members still to come. -/
inductive Left (isFirst : Bool) : List Member → List Char → Prop where
  | closed {blanks : List Char} (between : Blanks blanks) : Left isFirst [] (blanks ++ ['\x7d'])
  | more {members : List Member} {before inside : List Char} (opens : Opens isFirst before)
      (written : MembersOf members inside) : Left isFirst members (before ++ (inside ++ ['\x7d']))

theorem nextMember_ended {isFirst : Bool} (found : nextMember isFirst c = .ok (none, c')) :
    ∃ blanks, Blanks blanks ∧ c.rest = blanks ++ '\x7d' :: c'.rest := by
  unfold nextMember at found
  dsimp only at found
  split at found
  · cases found
  · rename_i tail ahead
    cases found
    rw [next_rest ahead]
    exact skipBlanks_ahead ahead
  · split at found
    · split at found <;> cases found
    split at found
    · split at found <;> cases found
    · cases found

theorem nextMember_form {isFirst : Bool} {d : Cursor} (found : nextMember isFirst c = .ok (some d, c')) :
    ∃ before tail, Opens isFirst before ∧ d.rest = '\x22' :: tail ∧ c.rest = before ++ d.rest := by
  obtain ⟨blanks, between, whole⟩ := skipBlanks_form c
  unfold nextMember at found
  dsimp only at found
  split at found
  · cases found
  · cases found
  · rename_i x tail _ ahead
    split at found
    · rename_i first
      split at found
      · rename_i quote
        cases found
        refine ⟨blanks, tail, ?_, by rw [ahead, quote], whole⟩
        rw [first]
        exact between
      · cases found
    · rename_i later
      split at found
      · rename_i comma
        obtain ⟨more, within, behind⟩ := skipBlanks_form c.skipBlanks.next
        split at found
        · rename_i tail' quote
          cases found
          refine ⟨blanks ++ ',' :: more, tail', ?_, quote, ?_⟩
          · rw [eq_false_of_ne_true later]
            exact ⟨blanks, more, between, within, rfl⟩
          · rw [whole, ahead, comma, ← next_rest ahead, behind]
            simp
        · cases found
        · cases found
        · cases found
      · cases found

/-- A member and what is left behind it. -/
theorem members_of_left {m : Member} {rest : List Char} (written : MemberOf m t) (left : Left false members rest) :
    ∃ inside, MembersOf (m :: members) inside ∧ t ++ rest = inside ++ ['\x7d'] := by
  cases left with
  | closed between => exact ⟨_, .last written between, by simp⟩
  | more opens others =>
    obtain ⟨before, after, first, second, rfl⟩ := opens
    exact ⟨_, .more written first second others, by simp⟩

theorem readMembers_form {count : Nat} {isFirst : Bool} (made : readMembers count isFirst g c = .ok (g', c')) :
    ∃ members text, Left isFirst members text ∧ Completing g g' members ∧ c.rest = text ++ c'.rest := by
  induction count generalizing isFirst g c with
  | zero => cases made
  | succ count ih =>
    obtain ⟨⟨found, d⟩, next, made⟩ := bind_ok made
    cases found with
    | none =>
      cases made
      obtain ⟨blanks, between, whole⟩ := nextMember_ended next
      exact ⟨[], _, .closed between, completing_self g', by rw [whole]; simp⟩
    | some start =>
      obtain ⟨⟨name, c₁⟩, string, made⟩ := bind_ok made
      obtain ⟨⟨g₁, c₂⟩, named, made⟩ := bind_ok made
      obtain ⟨before, tail, opens, quote, whole⟩ := nextMember_form next
      obtain ⟨parts, spelled, text⟩ := string_form string
      obtain ⟨t, ⟨first, second, between, after, value⟩, adds⟩ := readNamed_form named
      obtain ⟨members, rest, left, completing, behind⟩ := ih made
      have written : MemberOf (String.ofList name, t) (quoted parts ++ first ++ ':' :: (second ++ t)) :=
        .written ⟨parts, by rwa [String.toList_ofList], rfl⟩ between after
      obtain ⟨inside, others, same⟩ := members_of_left written left
      refine ⟨_, before ++ (inside ++ ['\x7d']), .more opens others, adds _ _ completing, ?_⟩
      rw [whole, quote, ← next_rest quote, text, value, behind, ← same, quoted]
      simp

/-- What is read as an object has members that make what was read of it. -/
theorem readGiven_object {tail : List Char} (ahead : c.skipBlanks.rest = '\x7b' :: tail)
    (made : readGiven c = .ok (g, c')) :
    ∃ blanks members text, Blanks blanks ∧ ObjectOf members text ∧ Completing .nothing g members ∧
      c.rest = blanks ++ (text ++ c'.rest) := by
  obtain ⟨blanks, between, whole⟩ := skipBlanks_ahead ahead
  simp only [readGiven, ahead] at made
  obtain ⟨members, text, left, completing, behind⟩ := readMembers_form made
  rw [next_rest ahead] at behind
  refine ⟨blanks, members, '\x7b' :: text, between, ?_, completing, by rw [whole, behind]; rfl⟩
  cases left with
  | closed between => exact .empty between
  | more opens written =>
    rw [← List.append_assoc]
    exact .full opens written

/-! Settings. -/

/-- What a field was given is what stands under its name. -/
theorem holds_of_given {given : Option (Option α)} {values : List (List Char)}
    (completes : Completes (OrNull writes) none values given) : Holds writes given.join values := by
  match given with
  | none => exact .inl completes
  | some none =>
    obtain ⟨text, rfl, single⟩ := completes
    exact .inr single
  | some (some value) => exact completes

theorem listing_of_completing (completing : Completing .nothing g members) : Listing g.settings members :=
  ⟨holds_of_given completing.baseUrl, holds_of_given completing.addressDomain,
    holds_of_given completing.onMissingName, holds_of_given completing.timeoutSecs, completing.others⟩

end AuthorNames.SettingsForm
