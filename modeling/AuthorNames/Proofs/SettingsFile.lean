import AuthorNames.Proofs.PercentEscapes
import AuthorNames.Proofs.SettingsList
import AuthorNames.Settings.Source

/-! Which files are accepted for settings, and what they give. There are two
forms, an object and a list, and a text of neither is refused. -/
namespace AuthorNames.SettingsFile
open AuthorNames.Json AuthorNames.Json.Grammar AuthorNames.Json.Cursor AuthorNames.JsonReading
open AuthorNames.JsonForm AuthorNames.EncodedText AuthorNames.Text.Utf8 AuthorNames.WellFormedText
open AuthorNames.GivenOnce AuthorNames.Settings AuthorNames.SettingsText AuthorNames.SettingsForm
open AuthorNames.SettingsList
open AuthorNames.PercentEscapes (utf8_injective)
open AuthorNames.AcceptedSettings (bind_ok)

/-- A text that is accepted for these settings: an object with members that are taken for them, or a list
with such items. -/
inductive Accepted (s : Settings) : List Char → Prop where
  | object {members : List Member} {before text after : List Char} (first : Blanks before)
      (object : ObjectOf members text) (listing : Listing s members) (last : Blanks after) :
      Accepted s (before ++ (text ++ after))
  | list {items : List (List Char)} {before text after : List Char} (first : Blanks before)
      (list : ListOf items text) (itemizing : Itemizing s items) (last : Blanks after) :
      Accepted s (before ++ (text ++ after))

variable {s : Settings} {c c' : Cursor} {g : Given} {text rest : List Char} {p : Position}

/-! Texts. -/

theorem readGiven_list {items : List (List Char)} (list : ListOf items text) (itemizing : Itemizing s items)
    {blanks : List Char} (between : Blanks blanks) (rest : List Char) (p : Position) :
    ∃ g p', g.settings = s ∧ readGiven ⟨blanks ++ (text ++ rest), p⟩ = .ok (g, ⟨rest, p'⟩) := by
  obtain ⟨tail, rfl⟩ : ∃ tail, text = '[' :: tail := by cases list <;> exact ⟨_, rfl⟩
  obtain ⟨g, p', same, read⟩ := readItems_read itemizing (toCome_list.mpr list) rest ((advance p blanks).past '[')
  refine ⟨g, p', same, ?_⟩
  simp only [readGiven, skipBlanks_append between, List.cons_append, skipBlanks_cons (c := '[') rfl, next_cons,
    read]

theorem ofText_accepted (accepted : Accepted s text) : ofText (String.ofList text) = .ok s := by
  cases accepted with
  | object first object listing last => exact ofText_object first object listing last
  | list first list itemizing last =>
    obtain ⟨g, p, rfl, read⟩ := readGiven_list list itemizing first _ _
    exact ofText_read last read

/-- What is read as a list has items that make what was read of it. -/
theorem readGiven_items {tail : List Char} (ahead : c.skipBlanks.rest = '[' :: tail)
    (made : readGiven c = .ok (g, c')) :
    ∃ blanks items text, Blanks blanks ∧ ListOf items text ∧ Itemizing g.settings items ∧
      c.rest = blanks ++ (text ++ c'.rest) := by
  obtain ⟨blanks, between, whole⟩ := skipBlanks_ahead ahead
  simp only [readGiven, ahead] at made
  obtain ⟨items, text, toCome, itemizing, behind⟩ := readItems_form made
  rw [next_rest ahead] at behind
  exact ⟨blanks, items, '[' :: text, between, toCome_list.mp toCome, itemizing, by rw [whole, behind]; rfl⟩

/-- What begins as neither an object nor a list gives nothing. -/
theorem readGiven_begins (made : readGiven c = .ok (g, c')) :
    ∃ x tail, c.skipBlanks.rest = x :: tail ∧ (x = '\x7b' ∨ x = '[') := by
  unfold readGiven at made
  dsimp only at made
  split at made
  · cases made
  · rename_i ahead
    exact ⟨_, _, ahead, .inl rfl⟩
  · rename_i ahead
    exact ⟨_, _, ahead, .inr rfl⟩
  · exact absurd made (wrongType_ne_ok _ _ _)

theorem accepted_of_given (made : readGiven c = .ok (g, c')) (last : Blanks c'.rest) :
    Accepted g.settings c.rest := by
  obtain ⟨x, tail, ahead, rfl | rfl⟩ := readGiven_begins made
  · obtain ⟨blanks, members, text, between, object, completing, whole⟩ := readGiven_object ahead made
    rw [whole]
    exact .object between object (listing_of_completing completing) last
  · obtain ⟨blanks, items, text, between, list, itemizing, whole⟩ := readGiven_items ahead made
    rw [whole]
    exact .list between list itemizing last

theorem accepted_of_ofText (made : ofText (String.ofList text) = .ok s) : Accepted s text := by
  obtain ⟨⟨g, c⟩, given, made⟩ := bind_ok made
  dsimp only at made
  split at made
  · rename_i ended
    cases made
    obtain ⟨blanks, last, whole⟩ := skipBlanks_form c
    rw [List.isEmpty_iff.mp ended, List.append_nil] at whole
    have accepted := accepted_of_given given (whole ▸ last)
    rwa [Cursor.start, String.toList_ofList] at accepted
  · cases made

/-- A text is read as settings exactly if it is accepted for them. -/
theorem ofText_eq_ok_iff : ofText (String.ofList text) = .ok s ↔ Accepted s text :=
  ⟨accepted_of_ofText, ofText_accepted⟩

/-! What tells an object that holds a policy by its name. -/

theorem brace_of_writes (written : Writes s text) : '\x7b' ∈ text := by
  cases written with
  | object _ object =>
    cases object <;> simp

/-- The value of a member stands behind a colon. -/
theorem colon_of_member {m : Member} (written : MemberOf m text) :
    ∃ blanks, Blanks blanks ∧ ':' :: (blanks ++ m.2) <:+ text := by
  obtain ⟨-, -, second⟩ := written
  exact ⟨_, second, List.suffix_append _ _⟩

theorem colon_of_members {members : List Member} (written : MembersOf members text) {m : Member}
    (member : m ∈ members) : ∃ blanks, Blanks blanks ∧ ':' :: (blanks ++ m.2) <:+: text := by
  induction written with
  | last first =>
    cases List.mem_singleton.mp member
    obtain ⟨blanks, between, ending⟩ := colon_of_member first
    exact ⟨blanks, between, ending.isInfix.trans (List.prefix_append _ _).isInfix⟩
  | more first _ _ _ ih =>
    rcases List.mem_cons.mp member with rfl | member
    · obtain ⟨blanks, between, ending⟩ := colon_of_member first
      refine ⟨blanks, between, ending.isInfix.trans (List.IsPrefix.isInfix ?_)⟩
      exact (List.prefix_append _ _).trans (List.prefix_append _ _)
    · obtain ⟨blanks, between, inside⟩ := ih member
      refine ⟨blanks, between, inside.trans (List.IsSuffix.isInfix ?_)⟩
      exact (List.suffix_append _ _).trans ((List.suffix_cons ',' _).trans (List.suffix_append _ _))

theorem colon_of_object {members : List Member} (object : ObjectOf members text) {m : Member}
    (member : m ∈ members) : ∃ blanks, Blanks blanks ∧ ':' :: (blanks ++ m.2) <:+: text := by
  cases object with
  | empty => cases member
  | full _ inside =>
    obtain ⟨blanks, between, within⟩ := colon_of_members inside member
    refine ⟨blanks, between, within.trans (List.IsInfix.trans ?_ (List.suffix_cons _ _).isInfix)⟩
    exact List.infix_append _ _ _

/-- A policy that an object gives is a string behind a colon. -/
theorem quote_of_writes {policy : MissingNamePolicy} (written : Writes s text)
    (named : s.onMissingName = some policy) :
    ∃ blanks, Blanks blanks ∧ ':' :: (blanks ++ ['\x22']) <:+: text := by
  obtain ⟨_, object, giving, _⟩ := written
  have holds := giving.onMissingName
  rw [named] at holds
  obtain ⟨value, ⟨parts, -, rfl⟩, single⟩ := holds
  have member : ("on_missing_name", quoted parts) ∈ _ := mem_of_mem_valuesOf (single ▸ List.mem_singleton_self _)
  obtain ⟨blanks, between, within⟩ := colon_of_object object member
  have opened : ':' :: (blanks ++ ['\x22']) <+: ':' :: (blanks ++ quoted parts) :=
    ⟨parts.flatten ++ ['\x22'], by simp [quoted]⟩
  refine ⟨blanks, between, opened.isInfix.trans (within.trans ?_)⟩
  exact (List.prefix_append _ _).isInfix.trans (List.suffix_append _ _).isInfix

/-! Files. -/

variable {files : Files} {path content : List UInt8}

theorem load_text (held : files.entryAt path = some (.file content)) (decoded : decode? content = some text) :
    Settings.load files path = (ofText (String.ofList text)).mapError .json := by
  rw [Settings.load, held, Settings.ofEntry?, Settings.ofEntry, decoded]
  dsimp only
  split <;> rename_i same <;> rw [same] <;> rfl

theorem load_not_text (held : files.entryAt path = some (.file content)) (broken : decode? content = none) :
    Settings.load files path = .error (.io .notUtf8) := by
  rw [Settings.load, held, Settings.ofEntry?, Settings.ofEntry, broken]

/-- **Only settings texts are accepted.** A file that is there is accepted for
settings exactly if it is the text of an object or of a list that is taken for
them; any other file is refused, as no text or with a fault of its text. -/
theorem load_accepts_settings_texts (held : files.entryAt path = some (.file content)) :
    (∀ s, Settings.load files path = .ok s ↔ ∃ text, content = encode text ∧ Accepted s text) ∧
      ((∀ s text, content = encode text → ¬ Accepted s text) →
        Settings.load files path = .error (.io .notUtf8) ∨
          ∃ fault, Settings.load files path = .error (.json fault)) := by
  simp only [← decode?_eq_some_iff]
  cases decoded : decode? content with
  | none =>
    rw [load_not_text held decoded]
    refine ⟨fun s => ⟨nofun, ?_⟩, fun _ => .inl rfl⟩
    rintro ⟨text, noText, -⟩
    cases noText
  | some text =>
    rw [load_text held decoded]
    cases read : ofText (String.ofList text) with
    | error fault =>
      refine ⟨fun s => ⟨nofun, ?_⟩, fun _ => .inr ⟨fault, rfl⟩⟩
      rintro ⟨_, ⟨⟩, accepted⟩
      cases read.symm.trans (ofText_eq_ok_iff.mpr accepted)
    | ok given =>
      have accepted := ofText_eq_ok_iff.mp read
      refine ⟨fun s => ⟨?_, ?_⟩, fun refused => absurd accepted (refused given text rfl)⟩
      · rintro ⟨⟩
        exact ⟨text, rfl, accepted⟩
      · rintro ⟨_, ⟨⟩, accepted⟩
        cases read.symm.trans (ofText_eq_ok_iff.mpr accepted)
        rfl

/-- A policy as an object. -/
def abortObject : List Char :=
  "\x7b\"abort\":null\x7d".toList

theorem abortObject_written : PolicyText .abort abortObject := by
  have nothing : Blanks [] := by decide
  exact .member (.full nothing (.last (.written (stringOf_plain (by decide)) nothing nothing) nothing))

/-- One file under every path. -/
def holding (text : List Char) : Files :=
  ⟨fun _ => some (.file (encode text)), some ⟨none⟩⟩

/-- A list that sets all but the base URL, the timeout to the greatest number there is. -/
def listText : List Char :=
  "[null, \"d\",\x7b\"abort\":null\x7d,18446744073709551615 ]\n".toList

theorem list_text_is_accepted :
    (holding listText).entryAt [] = some (.file (encode listText)) ∧
      Settings.load (holding listText) [] = .ok ⟨none, some "d", some .abort, some 18446744073709551615⟩ := by
  have nothing : Blanks [] := by decide
  have space : Blanks [' '] := by decide
  have feed : Blanks ['\n'] := by decide
  have list : ListOf ["null".toList, "\"d\"".toList, abortObject, "18446744073709551615".toList] _ :=
    .full nothing (.more nothing space (.more nothing nothing (.more nothing nothing (.closed space))))
  have itemizing : Itemizing ⟨none, some "d", some .abort, some 18446744073709551615⟩ ["null".toList,
      "\"d\"".toList, abortObject, "18446744073709551615".toList] :=
    ⟨by decide, .inr rfl, ⟨_, stringOf_plain (by decide), rfl⟩, ⟨_, abortObject_written, rfl⟩,
      ⟨_, ⟨⟨⟨by simp, List.all_eq_true.mp (by decide)⟩, by decide⟩, by decide⟩, rfl⟩⟩
  have accepted := Accepted.list nothing list itemizing feed
  exact ⟨rfl, ((load_accepts_settings_texts rfl).1 _).mpr ⟨listText, rfl, accepted⟩⟩

/-- An object whose policy is an object. -/
def policyText : List Char :=
  "\x7b\"on_missing_name\":\x7b\"abort\":null\x7d\x7d".toList

theorem load_holding (accepted : Accepted s text) (path : List UInt8) :
    Settings.load (holding text) path = .ok s := by
  rw [load_text rfl (decode?_encode text), ofText_accepted accepted]
  rfl

/-- A list without items, and an object whose policy is one: neither is a text
of an object of strings and a number, and both are accepted. -/
theorem other_forms_are_accepted :
    (Settings.load (holding "[]".toList) [] = .ok .empty ∧
      ¬ ∃ text, encode "[]".toList = encode text ∧ Writes .empty text) ∧
    (Settings.load (holding policyText) [] = .ok ⟨none, none, some .abort, none⟩ ∧
      ¬ ∃ text, encode policyText = encode text ∧ Writes ⟨none, none, some .abort, none⟩ text) := by
  have nothing : Blanks [] := by decide
  have list : Accepted .empty "[]".toList :=
    .list nothing (.empty nothing) ⟨by decide, .inl rfl, .inl rfl, .inl rfl, .inl rfl⟩ nothing
  have object : ObjectOf [("on_missing_name", abortObject)] policyText :=
    .full nothing (.last (.written (stringOf_plain (by decide)) nothing nothing) nothing)
  have listing : Listing ⟨none, none, some .abort, none⟩ [("on_missing_name", abortObject)] := by
    refine ⟨.inl (by decide), .inl (by decide), ⟨_, abortObject_written, by decide⟩, .inl (by decide), ?_⟩
    intro m member uncounted
    cases List.mem_singleton.mp member
    exact absurd (by decide) uncounted
  refine ⟨⟨load_holding list [], ?_⟩, load_holding (.object nothing object listing nothing) [], ?_⟩
  · rintro ⟨text, bytes, written⟩
    cases utf8_injective bytes
    exact absurd (brace_of_writes written) (by decide)
  · rintro ⟨text, bytes, written⟩
    cases utf8_injective bytes
    obtain ⟨blanks, between, within⟩ := quote_of_writes written rfl
    -- No blank is in the text, and no quote right behind a colon.
    have visible : policyText.all (fun c => !isBlank c) = true := by decide
    have nothing : blanks = [] := by
      refine List.eq_nil_iff_forall_not_mem.mpr fun c member => ?_
      have shown := List.all_eq_true.mp visible c (within.subset (by simp [member]))
      rw [isBlank_iff.mpr (between c member)] at shown
      cases shown
    rw [nothing] at within
    exact absurd within (by decide +kernel)

end AuthorNames.SettingsFile
