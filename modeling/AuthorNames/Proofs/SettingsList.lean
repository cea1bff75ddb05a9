import AuthorNames.Proofs.SettingsForm

/-! A list is read as settings too: its items are taken for them in order, and
those that it does not reach are not given. No item can be taken for the end of
the list, so the reader knows at each place whether there is one more. -/
namespace AuthorNames.SettingsList
open AuthorNames.Json AuthorNames.Json.Grammar AuthorNames.Json.Cursor AuthorNames.JsonReading
open AuthorNames.JsonForm AuthorNames.IgnoredForm AuthorNames.Settings AuthorNames.SettingsText
open AuthorNames.SettingsForm
open AuthorNames.AcceptedSettings (bind_ok)

/-- Items that are taken for these settings, in the order of the settings. -/
structure Itemizing (s : Settings) (items : List (List Char)) : Prop where
  count : items.length ≤ 4
  baseUrl : Holds StringOf s.baseUrl items[0]?.toList
  addressDomain : Holds StringOf s.addressDomain items[1]?.toList
  onMissingName : Holds PolicyText s.onMissingName items[2]?.toList
  timeoutSecs : Holds SecondsOf s.timeoutSecs items[3]?.toList

/-- What is left of a list with these items still to come: from its beginning on, or from behind an item. -/
inductive ToCome : Bool → List (List Char) → List Char → Prop where
  | closed {isFirst : Bool} {blanks : List Char} (between : Blanks blanks) : ToCome isFirst [] (blanks ++ [']'])
  | first {item blanks rest : List Char} {items : List (List Char)} (between : Blanks blanks)
      (behind : ItemsBehind items rest) : ToCome true (item :: items) (blanks ++ (item ++ rest))
  | another {item before after rest : List Char} {items : List (List Char)} (first : Blanks before)
      (second : Blanks after) (behind : ItemsBehind items rest) :
      ToCome false (item :: items) (before ++ ',' :: (after ++ (item ++ rest)))

variable {α : Type} {writes : α → List Char → Prop} {read : ValueReader α} {isFirst : Bool} {c c' : Cursor}
  {t rest : List Char} {p : Position} {items : List (List Char)} {value : Option α}

theorem toCome_behind : ToCome false items t ↔ ItemsBehind items t := by
  constructor
  · rintro (between | _ | ⟨first, second, behind⟩)
    · exact .closed between
    · exact .more first second behind
  · rintro (between | ⟨first, second, behind⟩)
    · exact .closed between
    · exact .another first second behind

theorem toCome_list : ToCome true items t ↔ ListOf items ('[' :: t) := by
  constructor
  · rintro (between | ⟨between, behind⟩)
    · exact .empty between
    · exact .full between behind
  · rintro (between | ⟨between, behind⟩)
    · exact .closed between
    · exact .first between behind

/-! Items that are there are read. -/

theorem behind_follows (behind : ItemsBehind items t) (rest : List Char) : Follows (t ++ rest) := by
  cases behind with
  | closed between =>
    rw [List.append_assoc]
    exact follows_append between (follows_cons (by decide))
  | more first =>
    rw [List.append_assoc]
    exact follows_append first (follows_cons (by decide))

/-- A value or `null` begins in front of no end. -/
theorem orNull_starts (reads : Reads read writes) (written : OrNull writes value t) :
    ∃ c tail, t = c :: tail ∧ isBlank c = false ∧ c ≠ ']' := by
  cases value with
  | none =>
    cases written
    exact ⟨_, _, rfl, by decide⟩
  | some value =>
    obtain ⟨c, tail, same, shown, -, notEnd⟩ := reads.starts written
    exact ⟨c, tail, same, shown, notEnd⟩

theorem orNull_of_holds {item : List Char} (holds : Holds writes value [item]) : OrNull writes value item := by
  cases value with
  | none =>
    rcases holds with nothing | null
    · cases nothing
    · exact (List.cons.inj null).1
  | some value =>
    obtain ⟨text, written, same⟩ := holds
    cases same
    exact written

theorem readItem_end {blanks : List Char} (between : Blanks blanks) :
    readItem isFirst read ⟨blanks ++ ']' :: rest, p⟩ = .ok (none, ⟨']' :: rest, advance p blanks⟩) := by
  simp only [readItem, skipBlanks_append between, skipBlanks_cons (c := ']') rfl]

theorem readOptional_here (reads : Reads read writes) (written : OrNull writes value t) (follows : Follows rest)
    (p : Position) : readOptional read ⟨t ++ rest, p⟩ = .ok (value, ⟨rest, advance p t⟩) := by
  have nothing : Blanks [] := by decide
  exact readOptional_read reads nothing written follows

theorem readItem_first (reads : Reads read writes) {blanks : List Char} (between : Blanks blanks)
    (written : OrNull writes value t) (follows : Follows rest) :
    readItem true read ⟨blanks ++ (t ++ rest), p⟩ = .ok (some value, ⟨rest, advance p (blanks ++ t)⟩) := by
  obtain ⟨x, tail, rfl, shown, notEnd⟩ := orNull_starts reads written
  have inner := readOptional_here reads written follows (advance p blanks)
  simp only [List.cons_append, ← advance_append] at inner
  simp only [readItem, skipBlanks_append between, List.cons_append, skipBlanks_cons shown, if_true, pure,
    Except.pure, bind, Except.bind, inner]

theorem readItem_another (reads : Reads read writes) {before after : List Char} (first : Blanks before)
    (second : Blanks after) (written : OrNull writes value t) (follows : Follows rest) :
    readItem false read ⟨before ++ ',' :: (after ++ (t ++ rest)), p⟩ =
      .ok (some value, ⟨rest, advance p (before ++ ',' :: (after ++ t))⟩) := by
  obtain ⟨x, tail, rfl, shown, notEnd⟩ := orNull_starts reads written
  have inner := readOptional_here reads written follows (advance (advance p (before ++ [','])) after)
  simp only [List.cons_append, advance_append, advance_cons, advance_nil] at inner
  simp [readItem, skipBlanks_append first, skipBlanks_append second, skipBlanks_cons (c := ',') rfl,
    skipBlanks_cons shown, notEnd, inner, pure, Except.pure, bind, Except.bind]

/-- One item more, if there is one: what it gives is what the setting is to be. -/
theorem readItem_read (reads : Reads read writes) (toCome : ToCome isFirst items t)
    (holds : Holds writes value items.head?.toList) (rest : List Char) (p : Position) :
    ∃ given t' p', given.join = value ∧ ToCome given.isNone items.tail t' ∧
      readItem isFirst read ⟨t ++ rest, p⟩ = .ok (given, ⟨t' ++ rest, p'⟩) := by
  cases toCome with
  | closed between =>
    have missing : value = none := by
      cases value with
      | none => rfl
      | some value =>
        obtain ⟨text, -, same⟩ := holds
        cases same
    have nothing : Blanks [] := by decide
    have ended : ToCome true [] [']'] := .closed nothing
    rw [List.append_assoc]
    exact ⟨none, [']'], _, missing.symm, ended, readItem_end between⟩
  | first between behind =>
    have written := orNull_of_holds holds
    rw [List.append_assoc, List.append_assoc]
    exact ⟨some value, _, _, rfl, toCome_behind.mpr behind,
      readItem_first reads between written (behind_follows behind rest)⟩
  | another first second behind =>
    have written := orNull_of_holds holds
    simp only [List.append_assoc, List.cons_append]
    exact ⟨some value, _, _, rfl, toCome_behind.mpr behind,
      readItem_another reads first second written (behind_follows behind rest)⟩

theorem endList_read (toCome : ToCome isFirst [] t) (rest : List Char) (p : Position) :
    ∃ p', endList ⟨t ++ rest, p⟩ = .ok ⟨rest, p'⟩ := by
  cases toCome with
  | closed between =>
    simp only [List.append_assoc, endList, skipBlanks_append between, List.cons_append, List.nil_append,
      skipBlanks_cons (c := ']') rfl, next_cons]
    exact ⟨_, rfl⟩

/-- A list is read to its end. -/
theorem readItems_read {s : Settings} (itemizing : Itemizing s items) (toCome : ToCome true items t)
    (rest : List Char) (p : Position) :
    ∃ g p', g.settings = s ∧ readItems ⟨t ++ rest, p⟩ = .ok (g, ⟨rest, p'⟩) := by
  obtain ⟨count, base, domain, policy, timeout⟩ := itemizing
  -- The items of the later settings are the first of what is left.
  have second : items[1]? = items.tail.head? := by simp
  have third : items[2]? = items.tail.tail.head? := by simp
  have fourth : items[3]? = items.tail.tail.tail.head? := by simp
  rw [← List.head?_eq_getElem?] at base
  rw [second] at domain
  rw [third] at policy
  rw [fourth] at timeout
  obtain ⟨base', t₁, p₁, baseSame, toCome₁, read₁⟩ := readItem_read readString_reads toCome base rest p
  obtain ⟨domain', t₂, p₂, domainSame, toCome₂, read₂⟩ := readItem_read readString_reads toCome₁ domain rest p₁
  obtain ⟨policy', t₃, p₃, policySame, toCome₃, read₃⟩ := readItem_read readPolicy_reads toCome₂ policy rest p₂
  obtain ⟨timeout', t₄, p₄, timeoutSame, toCome₄, read₄⟩ :=
    readItem_read readWholeNumber_reads toCome₃ timeout rest p₃
  have nothing : items.tail.tail.tail.tail = [] := by
    rw [← List.length_eq_zero_iff]
    simp only [List.length_tail]
    omega
  rw [nothing] at toCome₄
  obtain ⟨p₅, ended⟩ := endList_read toCome₄ rest p₄
  refine ⟨⟨base', domain', policy', timeout'⟩, p₅, ?_, ?_⟩
  · rw [Given.settings, baseSame, domainSame, policySame, timeoutSame]
  · simp only [readItems, read₁, read₂, read₃, read₄, ended, bind, Except.bind]

/-! Only such items are read. -/

theorem item_of_optional {first : Except Fault Cursor} {given : Option (Option α)} (only : ReadsOnly read writes)
    (made : (do let (value, c) ← readOptional read (← first); .ok (some value, c)) = .ok (given, c')) :
    ∃ d value item blanks, first = .ok d ∧ given = some value ∧ OrNull writes value item ∧ Blanks blanks ∧
      d.rest = blanks ++ (item ++ c'.rest) := by
  obtain ⟨d, here, made⟩ := bind_ok made
  obtain ⟨⟨value, c₁⟩, inner, made⟩ := bind_ok made
  cases made
  obtain ⟨blanks, item, between, written, text⟩ := readOptional_only only inner
  exact ⟨d, value, item, blanks, here, rfl, written, between, text⟩

/-- What is read as an item is one of those to come, or there is none. The end of the list is told by
its bracket, which begins no item. -/
theorem readItem_form (only : ReadsOnly read writes) {given : Option (Option α)}
    (made : readItem isFirst read c = .ok (given, c')) :
    given = none ∧ (∃ blanks, Blanks blanks ∧ c.rest = blanks ++ c'.rest) ∧ c'.rest.head? = some ']' ∨
      c.rest.head? ≠ some ']' ∧ ∃ value item before, given = some value ∧ OrNull writes value item ∧
        Opens isFirst before ∧ c.rest = before ++ (item ++ c'.rest) := by
  obtain ⟨blanks, between, whole⟩ := skipBlanks_form c
  unfold readItem at made
  dsimp only at made
  split at made
  · cases made
  · rename_i tail ahead
    cases made
    exact .inl ⟨rfl, ⟨blanks, between, whole⟩, by rw [ahead]; rfl⟩
  · rename_i x tail notEnd ahead
    refine .inr ⟨?_, ?_⟩
    · intro ended
      obtain ⟨rest, at_end⟩ := List.head?_eq_some_iff.mp ended
      have shown := skipBlanks_cons (t := rest) (p := c.position) (c := ']') rfl
      have same : c = ⟨']' :: rest, c.position⟩ := by rw [← at_end]
      rw [same, shown] at ahead
      exact notEnd (List.cons.inj ahead).1.symm
    · split at made
      · rename_i first
        obtain ⟨d, value, item, more, here, rfl, written, within, text⟩ := item_of_optional only made
        cases here
        refine ⟨value, item, blanks ++ more, rfl, written, ?_, by rw [whole, text, List.append_assoc]⟩
        rw [first]
        exact blanks_append between within
      · rename_i later
        split at made
        · rename_i comma
          obtain ⟨space, beyond, behind⟩ := skipBlanks_form c.skipBlanks.next
          split at made
          · cases made
          · cases made
          · obtain ⟨d, value, item, more, here, rfl, written, within, text⟩ := item_of_optional only made
            cases here
            refine ⟨value, item, blanks ++ ',' :: (space ++ more), rfl, written, ?_, ?_⟩
            · rw [eq_false_of_ne_true later]
              exact ⟨blanks, space ++ more, between, blanks_append beyond within, rfl⟩
            · rw [whole, ahead, comma, ← next_rest ahead, behind, text]
              simp
        · cases made

theorem endList_form (made : endList c = .ok c') :
    ∃ blanks, Blanks blanks ∧ c.rest = blanks ++ ']' :: c'.rest := by
  unfold endList at made
  dsimp only at made
  split at made
  · cases made
  · rename_i tail ahead
    cases made
    rw [next_rest ahead]
    exact skipBlanks_ahead ahead
  · split at made <;> cases made
  · cases made

/-- The items still to come at a place; there are none in front of the end. -/
def Awaits (isFirst : Bool) (items : List (List Char)) (c : Cursor) (rest : List Char) : Prop :=
  (∃ t, ToCome isFirst items t ∧ c.rest = t ++ rest) ∧ (c.rest.head? = some ']' → items = [])

theorem holds_of_orNull {item : List Char} (written : OrNull writes value item) : Holds writes value [item] := by
  cases value with
  | none => exact .inr (congrArg ([·]) written)
  | some value => exact ⟨item, written, rfl⟩

/-- One item more in front of those that are to come. -/
theorem awaits_item (only : ReadsOnly read writes) {given : Option (Option α)}
    (made : readItem isFirst read c = .ok (given, c')) (awaits : Awaits given.isNone items c' rest) :
    ∃ items', items'.tail = items ∧ items'.length ≤ items.length + 1 ∧
      Holds writes given.join items'.head?.toList ∧ Awaits isFirst items' c rest := by
  obtain ⟨⟨t, toCome, behind⟩, atEnd⟩ := awaits
  rcases readItem_form only made with ⟨rfl, ⟨blanks, between, whole⟩, ended⟩ |
    ⟨notEnd, value, item, before, rfl, written, opens, whole⟩
  · cases atEnd ended
    refine ⟨[], rfl, Nat.zero_le _, .inl rfl, ⟨blanks ++ t, ?_, by rw [whole, behind, List.append_assoc]⟩, fun _ => rfl⟩
    cases toCome with
    | closed more =>
      rw [← List.append_assoc]
      exact .closed (blanks_append between more)
  · refine ⟨item :: items, rfl, Nat.le_refl _, holds_of_orNull written, ⟨before ++ (item ++ t), ?_, ?_⟩,
      fun ended => absurd ended notEnd⟩
    · have others := toCome_behind.mp toCome
      cases isFirst with
      | true => exact .first opens others
      | false =>
        obtain ⟨front, back, first, second, rfl⟩ := opens
        rw [List.append_assoc, List.cons_append]
        exact .another first second others
    · rw [whole, behind]
      simp

/-- What is read as a list has items that are taken for what was read of it. -/
theorem readItems_form {g : Given} (made : readItems c = .ok (g, c')) :
    ∃ items t, ToCome true items t ∧ Itemizing g.settings items ∧ c.rest = t ++ c'.rest := by
  obtain ⟨⟨base, c₁⟩, first, made⟩ := bind_ok made
  obtain ⟨⟨domain, c₂⟩, second, made⟩ := bind_ok made
  obtain ⟨⟨policy, c₃⟩, third, made⟩ := bind_ok made
  obtain ⟨⟨timeout, c₄⟩, fourth, made⟩ := bind_ok made
  obtain ⟨c₅, ended, made⟩ := bind_ok made
  cases made
  obtain ⟨blanks, between, whole⟩ := endList_form ended
  have last : Awaits timeout.isNone [] c₄ c'.rest := by
    exact ⟨⟨blanks ++ [']'], .closed between, by rw [whole]; simp⟩, fun _ => rfl⟩
  obtain ⟨items₃, tail₃, count₃, holds₃, awaits⟩ := awaits_item readWholeNumber_only fourth last
  obtain ⟨items₂, tail₂, count₂, holds₂, awaits⟩ := awaits_item readPolicy_only third awaits
  obtain ⟨items₁, tail₁, count₁, holds₁, awaits⟩ := awaits_item readString_only second awaits
  obtain ⟨items, tail, count, holds, ⟨t, toCome, text⟩, -⟩ := awaits_item readString_only first awaits
  refine ⟨items, t, toCome, ⟨?_, ?_, ?_, ?_, ?_⟩, text⟩
  · rw [List.length_nil] at count₃
    omega
  · rwa [List.head?_eq_getElem?] at holds
  · simpa [Given.settings, ← tail, List.head?_eq_getElem?] using holds₁
  · simpa [Given.settings, ← tail₁, ← tail, List.head?_eq_getElem?] using holds₂
  · simpa [Given.settings, ← tail₂, ← tail₁, ← tail, List.head?_eq_getElem?] using holds₃

end AuthorNames.SettingsList
