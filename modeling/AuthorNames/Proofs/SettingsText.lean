import AuthorNames.Proofs.GivenOnce
import AuthorNames.Proofs.IgnoredValues
import AuthorNames.Settings.Reader

/-! Settings written as an object are read as those settings: the members may
stand in any order, their strings may be escaped in any way, what is not given
may be left out or `null`, and members of other names may hold anything. -/
namespace AuthorNames.SettingsText
open AuthorNames.Json AuthorNames.Json.Grammar AuthorNames.Json.Cursor AuthorNames.JsonReading
open AuthorNames.IgnoredValues AuthorNames.GivenOnce AuthorNames.Settings

/-- The name of a policy. -/
def policyName : MissingNamePolicy → String
  | .abort => "abort"
  | .fallback => "fallback"

/-- The names of the members that count. -/
def memberNames : List String :=
  ["base_url", "address_domain", "on_missing_name", "timeout_secs"]

/-- The text of a policy. -/
def PolicyOf (policy : MissingNamePolicy) (text : List Char) : Prop :=
  StringOf (policyName policy) text

/-- What is taken for a policy: its text, or an object that has one member, which is of its name and
`null`. -/
inductive PolicyText (policy : MissingNamePolicy) : List Char → Prop where
  | name {text : List Char} (named : PolicyOf policy text) : PolicyText policy text
  | member {text : List Char} (object : ObjectOf [(policyName policy, "null".toList)] text) :
      PolicyText policy text

/-- The text of a number of 64 bits. -/
def SecondsOf (seconds : UInt64) (text : List Char) : Prop :=
  NaturalOf seconds.toNat text

/-- A setting as it stands among the members of a name: left out, `null`, or
one value that is written so. -/
def Holds {α : Type} (writes : α → List Char → Prop) : Option α → List (List Char) → Prop
  | none, values => values = [] ∨ values = ["null".toList]
  | some value, values => ∃ text, writes value text ∧ values = [text]

/-- Members that give these settings and no others. -/
structure Giving (s : Settings) (members : List Member) : Prop where
  baseUrl : Holds StringOf s.baseUrl (valuesOf "base_url" members)
  addressDomain : Holds StringOf s.addressDomain (valuesOf "address_domain" members)
  onMissingName : Holds PolicyOf s.onMissingName (valuesOf "on_missing_name" members)
  timeoutSecs : Holds SecondsOf s.timeoutSecs (valuesOf "timeout_secs" members)
  others : ∀ m ∈ members, m.1 ∉ memberNames → Value m.2

/-- Members that are taken for these settings, the policy in either of its forms. -/
structure Listing (s : Settings) (members : List Member) : Prop where
  baseUrl : Holds StringOf s.baseUrl (valuesOf "base_url" members)
  addressDomain : Holds StringOf s.addressDomain (valuesOf "address_domain" members)
  onMissingName : Holds PolicyText s.onMissingName (valuesOf "on_missing_name" members)
  timeoutSecs : Holds SecondsOf s.timeoutSecs (valuesOf "timeout_secs" members)
  others : ∀ m ∈ members, m.1 ∉ memberNames → Value m.2

/-- A text that is one object with members that give these settings. -/
inductive Writes (s : Settings) : List Char → Prop where
  | object {members : List Member} {before text after : List Char} (first : Blanks before)
      (object : ObjectOf members text) (giving : Giving s members) (last : Blanks after) :
      Writes s (before ++ (text ++ after))

/-- An object without members gives nothing. -/
theorem writes_empty {before between after : List Char} (first : Blanks before) (inside : Blanks between)
    (last : Blanks after) : Writes .empty (before ++ ('\x7b' :: (between ++ ['\x7d']) ++ after)) :=
  .object first (.empty inside)
    ⟨.inl rfl, .inl rfl, .inl rfl, .inl rfl, fun _ member => absurd member List.not_mem_nil⟩ last

variable {α : Type} {writes : α → List Char → Prop} {t rest : List Char} {p : Position}

/-! One value. -/

/-- A value or `null`. -/
def OrNull (writes : α → List Char → Prop) : Option α → List Char → Prop
  | none, text => text = "null".toList
  | some value, text => writes value text

/-- A reader of the values that are written so. None of them begins as `null`
does, or could be taken for the end of a list. -/
structure Reads (read : ValueReader α) (writes : α → List Char → Prop) : Prop where
  starts : ∀ {value t}, writes value t →
    ∃ c tail, t = c :: tail ∧ isBlank c = false ∧ c ≠ 'n' ∧ c ≠ ']'
  reads : ∀ {value t rest p}, writes value t → Follows rest →
    read ⟨t ++ rest, p⟩ = .ok (value, ⟨rest, advance p t⟩)

theorem readString_reads : Reads readString StringOf where
  starts := by
    rintro value t ⟨parts, -, rfl⟩
    exact ⟨_, _, rfl, by decide⟩
  reads := by
    rintro value t rest p ⟨parts, spelled, rfl⟩ -
    simp only [quoted, List.cons_append, List.append_assoc, List.nil_append, readString,
      skipBlanks_cons (c := '\x22') rfl, next_cons, string_read spelled, bind, Except.bind,
      String.ofList_toList, advance_cons]

theorem readPolicyName_read {policy : MissingNamePolicy} {blanks : List Char} (between : Blanks blanks)
    (named : PolicyOf policy t) :
    readPolicyName ⟨blanks ++ (t ++ rest), p⟩ = .ok (policy, ⟨rest, advance p (blanks ++ t)⟩) := by
  obtain ⟨parts, spelled, rfl⟩ := named
  have known : policyNamed? (policyName policy) = some policy := by cases policy <;> rfl
  simp only [quoted, List.cons_append, List.append_assoc, List.nil_append, readPolicyName,
    skipBlanks_append between, skipBlanks_cons (c := '\x22') rfl, next_cons, string_read spelled, bind,
    Except.bind, String.ofList_toList, known, advance_cons, advance_append]

theorem readNull_read {blanks : List Char} (between : Blanks blanks) :
    readNull ⟨blanks ++ ("null".toList ++ rest), p⟩ = .ok ⟨rest, advance p (blanks ++ "null".toList)⟩ := by
  have word := expectRest_self ['u', 'l', 'l'] rest ((advance p blanks).past 'n')
  have spelled : "null".toList = 'n' :: ['u', 'l', 'l'] := rfl
  simp only [readNull, skipBlanks_append between, spelled, List.cons_append, skipBlanks_cons (c := 'n') rfl,
    next_cons, advance_append] at word ⊢
  rw [word]
  rfl

theorem readPolicy_reads : Reads readPolicy PolicyText where
  starts := by
    rintro value t (⟨parts, -, rfl⟩ | object)
    · exact ⟨_, _, rfl, by decide⟩
    · cases object with
      | full => exact ⟨_, _, rfl, by decide⟩
  reads := by
    rintro policy t rest p (named | object) -
    · have nothing : Blanks [] := by decide
      have read : readPolicyName ⟨[] ++ (t ++ rest), p⟩ = .ok (policy, ⟨rest, advance p ([] ++ t)⟩) :=
        readPolicyName_read nothing named
      obtain ⟨parts, spelled, rfl⟩ := named
      simp only [quoted, List.cons_append, List.append_assoc, List.nil_append] at read ⊢
      simp only [readPolicy, skipBlanks_cons (c := '\x22') rfl, read]
    · cases object with
      | @full _ blanks _ inside members =>
        cases members with
        | more _ _ _ others => cases others
        | @last _ _ behind member last =>
          cases member with
          | @written _ spelled before after _ named first second =>
            simp only [List.cons_append, List.append_assoc, List.nil_append, readPolicy,
              skipBlanks_cons (c := '\x7b') rfl, next_cons, readPolicyName_read inside named, bind, Except.bind,
              Cursor.colon, skipBlanks_append first, skipBlanks_cons (c := ':') rfl, readNull_read second,
              skipBlanks_append last, skipBlanks_cons (c := '\x7d') rfl, advance_cons, advance_append,
              advance_nil]

theorem readWholeNumber_reads : Reads readWholeNumber SecondsOf where
  starts := by
    rintro seconds t ⟨whole, -⟩
    obtain ⟨d, tail, rfl, digit⟩ := digits_head whole.1
    obtain ⟨_, _, same, shown, notEnd, -⟩ := starts_digit (t := tail) digit
    cases same
    refine ⟨d, tail, rfl, shown, ?_, notEnd⟩
    rintro rfl
    exact absurd digit (by decide)
  reads := by
    intro seconds t rest p written follows
    have fits : seconds.toNat ≤ maxNatural := Nat.le_of_lt_succ seconds.toNat_lt
    have read := number_read (p := p) written fits follows
    obtain ⟨d, tail, rfl, digit⟩ := digits_head written.1.1
    obtain ⟨_, _, same, shown, -⟩ := starts_digit (t := tail) digit
    cases same
    simp only [List.cons_append, readWholeNumber, skipBlanks_cons shown] at read ⊢
    split
    case h_3 same =>
      cases same
      rw [if_pos digit, read]
      simp only [bind, Except.bind, wholeNumber, UInt64.ofNat_toNat, advance_cons]
    all_goals
      rename_i same
      cases same
    exact absurd digit (by decide)

theorem readOptional_read {read : ValueReader α} (reads : Reads read writes) {value : Option α}
    {blanks : List Char} (between : Blanks blanks) (written : OrNull writes value t) (follows : Follows rest) :
    readOptional read ⟨blanks ++ (t ++ rest), p⟩ = .ok (value, ⟨rest, advance p (blanks ++ t)⟩) := by
  cases value with
  | none =>
    cases written
    have word := expectRest_self ['u', 'l', 'l'] rest ((advance p blanks).past 'n')
    have spelled : "null".toList = 'n' :: ['u', 'l', 'l'] := rfl
    simp only [readOptional, skipBlanks_append between, advance_append, spelled, List.cons_append,
      skipBlanks_cons (c := 'n') rfl, next_cons] at word ⊢
    rw [word]
    rfl
  | some value =>
    obtain ⟨c, tail, rfl, shown, notNull, -⟩ := reads.starts written
    have read := reads.reads (p := advance p blanks) written follows
    simp only [List.cons_append] at read
    simp only [readOptional, skipBlanks_append between, advance_append, List.cons_append,
      skipBlanks_cons shown]
    split
    case h_1 same => exact absurd (List.cons.inj same).1 notNull
    simp only [read, bind, Except.bind]

/-- A member that was not given before, behind its name. -/
theorem readMember_read {read : ValueReader α} (reads : Reads read writes) {value : Option α}
    {before after : List Char} (first : Blanks before) (second : Blanks after)
    (written : OrNull writes value t) (follows : Follows rest) (name : String) (put : Option α → Given) :
    readMember name none read put ⟨before ++ ':' :: (after ++ (t ++ rest)), p⟩ =
      .ok (put value, ⟨rest, advance p (before ++ ':' :: (after ++ t))⟩) := by
  simp only [readMember, Cursor.colon, skipBlanks_append first, skipBlanks_cons (c := ':') rfl, next_cons,
    bind, Except.bind, readOptional_read reads second written follows, advance_cons, advance_append]

/-! Members. -/

theorem readNamed_other {name : String} (other : name ∉ memberNames) (g : Given) (c : Cursor) :
    readNamed g name c = (do .ok (g, ← (← c.colon).skipValue)) := by
  unfold readNamed
  split <;> first | rfl | exact absurd other (by decide)

/-- What the members still to come make of what has been given. -/
structure Completing (g g' : Given) (members : List Member) : Prop where
  baseUrl : Completes (OrNull StringOf) g.baseUrl (valuesOf "base_url" members) g'.baseUrl
  addressDomain : Completes (OrNull StringOf) g.addressDomain (valuesOf "address_domain" members)
    g'.addressDomain
  onMissingName : Completes (OrNull PolicyText) g.onMissingName (valuesOf "on_missing_name" members)
    g'.onMissingName
  timeoutSecs : Completes (OrNull SecondsOf) g.timeoutSecs (valuesOf "timeout_secs" members) g'.timeoutSecs
  others : ∀ m ∈ members, m.1 ∉ memberNames → Value m.2

variable {g g' : Given} {members : List Member}

theorem completing_nil (completing : Completing g g' []) : g' = g := by
  obtain ⟨a, b, c, d⟩ := g
  obtain ⟨a', b', c', d'⟩ := g'
  cases completes_nil completing.baseUrl
  cases completes_nil completing.addressDomain
  cases completes_nil completing.onMissingName
  cases completes_nil completing.timeoutSecs
  rfl

theorem readNamed_baseUrl (g : Given) (c : Cursor) : readNamed g "base_url" c =
    readMember "base_url" g.baseUrl readString (fun v => { g with baseUrl := some v }) c := rfl

theorem readNamed_addressDomain (g : Given) (c : Cursor) : readNamed g "address_domain" c =
    readMember "address_domain" g.addressDomain readString
      (fun v => { g with addressDomain := some v }) c := rfl

theorem readNamed_onMissingName (g : Given) (c : Cursor) : readNamed g "on_missing_name" c =
    readMember "on_missing_name" g.onMissingName readPolicy
      (fun v => { g with onMissingName := some v }) c := rfl

theorem readNamed_timeoutSecs (g : Given) (c : Cursor) : readNamed g "timeout_secs" c =
    readMember "timeout_secs" g.timeoutSecs readWholeNumber
      (fun v => { g with timeoutSecs := some v }) c := rfl

/-- Reads one member, behind its name. -/
def ReadsMember (g : Given) (name : String) (t : List Char) (g₁ : Given) : Prop :=
  ∀ before after rest p, Blanks before → Blanks after → Follows rest →
    readNamed g name ⟨before ++ ':' :: (after ++ (t ++ rest)), p⟩ =
      .ok (g₁, ⟨rest, advance p (before ++ ':' :: (after ++ t))⟩)

/-- A member whose name counts, and whose field has a reader of its own. -/
theorem readNamed_counted {name : String} {field after : Option (Option α)} {values : List (List Char)}
    {read : ValueReader α} {put : Option α → Given} (reads : Reads read writes)
    (counted : ∀ c, readNamed g name c = readMember name field read put c)
    (completes : Completes (OrNull writes) field (t :: values) after) :
    ∃ value, Completes (OrNull writes) (some value) values after ∧ ReadsMember g name t (put value) := by
  obtain ⟨fresh, value, written, completes⟩ := completes_cons completes
  refine ⟨value, completes, fun before after rest p first second follows => ?_⟩
  rw [counted, fresh]
  exact readMember_read reads first second written follows _ _

/-- A member whose name does not count. -/
theorem readNamed_uncounted {name : String} (other : name ∉ memberNames) (value : Value t) :
    ReadsMember g name t g := by
  intro before after rest p first second follows
  simp only [readNamed_other other, Cursor.colon, skipBlanks_append first, skipBlanks_cons (c := ':') rfl,
    next_cons, bind, Except.bind, skipValue_read second value follows, advance_cons, advance_append]

/-- One member: what it adds leaves the rest to the others. -/
theorem readNamed_read {name : String} (completing : Completing g g' ((name, t) :: members)) :
    ∃ g₁, Completing g₁ g' members ∧ ReadsMember g name t g₁ := by
  obtain ⟨base, domain, policy, timeout, others⟩ := completing
  obtain ⟨formed, left⟩ := List.forall_mem_cons.mp others
  by_cases isBase : name = "base_url"
  · subst isBase
    rw [valuesOf_cons_same] at base
    rw [valuesOf_cons_other (by decide)] at domain policy timeout
    obtain ⟨value, base, read⟩ := readNamed_counted readString_reads (readNamed_baseUrl g) base
    exact ⟨{ g with baseUrl := some value }, ⟨base, domain, policy, timeout, left⟩, read⟩
  by_cases isDomain : name = "address_domain"
  · subst isDomain
    rw [valuesOf_cons_same] at domain
    rw [valuesOf_cons_other (by decide)] at base policy timeout
    obtain ⟨value, domain, read⟩ := readNamed_counted readString_reads (readNamed_addressDomain g) domain
    exact ⟨{ g with addressDomain := some value }, ⟨base, domain, policy, timeout, left⟩, read⟩
  by_cases isPolicy : name = "on_missing_name"
  · subst isPolicy
    rw [valuesOf_cons_same] at policy
    rw [valuesOf_cons_other (by decide)] at base domain timeout
    obtain ⟨value, policy, read⟩ := readNamed_counted readPolicy_reads (readNamed_onMissingName g) policy
    exact ⟨{ g with onMissingName := some value }, ⟨base, domain, policy, timeout, left⟩, read⟩
  by_cases isTimeout : name = "timeout_secs"
  · subst isTimeout
    rw [valuesOf_cons_same] at timeout
    rw [valuesOf_cons_other (by decide)] at base domain policy
    obtain ⟨value, timeout, read⟩ := readNamed_counted readWholeNumber_reads (readNamed_timeoutSecs g) timeout
    exact ⟨{ g with timeoutSecs := some value }, ⟨base, domain, policy, timeout, left⟩, read⟩
  have other : name ∉ memberNames := by simp [memberNames, isBase, isDomain, isPolicy, isTimeout]
  rw [valuesOf_cons_other isBase] at base
  rw [valuesOf_cons_other isDomain] at domain
  rw [valuesOf_cons_other isPolicy] at policy
  rw [valuesOf_cons_other isTimeout] at timeout
  exact ⟨g, ⟨base, domain, policy, timeout, left⟩, readNamed_uncounted other (formed other)⟩

/-! Objects. -/

theorem membersOf_head (written : MembersOf members t) : ∃ tail, t = '\x22' :: tail := by
  cases written with
  | last member | more member =>
    obtain ⟨⟨parts, -, rfl⟩, -, -⟩ := member
    exact ⟨_, rfl⟩

theorem nextMember_end {blanks : List Char} (between : Blanks blanks) (isFirst : Bool) :
    nextMember isFirst ⟨blanks ++ '\x7d' :: rest, p⟩ =
      .ok (none, ⟨rest, advance p (blanks ++ ['\x7d'])⟩) := by
  simp only [nextMember, skipBlanks_append between, skipBlanks_cons (c := '\x7d') rfl, next_cons,
    advance_append, advance_cons, advance_nil]

theorem nextMember_first {blanks : List Char} (between : Blanks blanks) (rest : List Char) (p : Position) :
    nextMember true ⟨blanks ++ '\x22' :: rest, p⟩ =
      .ok (some ⟨'\x22' :: rest, advance p blanks⟩, ⟨'\x22' :: rest, advance p blanks⟩) := by
  simp only [nextMember, skipBlanks_append between, skipBlanks_cons (c := '\x22') rfl]
  rfl

theorem nextMember_another {before after : List Char} (first : Blanks before) (second : Blanks after)
    (rest : List Char) (p : Position) :
    nextMember false ⟨before ++ ',' :: (after ++ '\x22' :: rest), p⟩ =
      .ok (some ⟨'\x22' :: rest, advance p (before ++ ',' :: after)⟩,
        ⟨'\x22' :: rest, advance p (before ++ ',' :: after)⟩) := by
  simp [nextMember, skipBlanks_append first, skipBlanks_append second, skipBlanks_cons (c := ',') rfl,
    skipBlanks_cons (c := '\x22') rfl]

/-- One member and what comes behind it. -/
theorem readMembers_member {m : Member} (member : MemberOf m t) {g₁ : Given} (read : ReadsMember g m.1 m.2 g₁)
    (follows : Follows rest) {isFirst : Bool} {c d : Cursor} (count : Nat)
    (found : nextMember isFirst c = .ok (some ⟨t ++ rest, p⟩, d)) :
    readMembers (count + 1) isFirst g c = readMembers count false g₁ ⟨rest, advance p t⟩ := by
  obtain ⟨⟨parts, spelled, rfl⟩, first, second⟩ := member
  have behind := read _ _ rest (advance p (quoted parts)) first second follows
  simp only [quoted, List.cons_append, List.append_assoc, List.nil_append, advance_cons, advance_append,
    advance_nil] at behind found ⊢
  simp only [readMembers, found, next_cons, string_read spelled, bind, Except.bind, String.ofList_toList,
    advance_append, advance_cons, advance_nil, behind]

/-- The members of an object, from the first quote on, are read to the end of
the object; a member costs one of the count. -/
theorem readMembers_read (written : MembersOf members t) {count : Nat} (enough : t.length < count)
    (completing : Completing g g' members) {isFirst : Bool} {c d : Cursor}
    (found : nextMember isFirst c = .ok (some ⟨t ++ '\x7d' :: rest, p⟩, d)) :
    readMembers count isFirst g c = .ok (g', ⟨rest, advance p (t ++ ['\x7d'])⟩) := by
  induction written generalizing count g isFirst c d p with
  | @last m text blanks member behind =>
    obtain ⟨g₁, completing, read⟩ := readNamed_read completing
    obtain ⟨count, rfl⟩ : ∃ before, count = before + 2 := by
      obtain ⟨tail, same⟩ := membersOf_head (.last member behind)
      rw [same, List.length_cons] at enough
      exact ⟨count - 2, by omega⟩
    have follows : Follows (blanks ++ '\x7d' :: rest) := follows_append behind (follows_cons (by decide))
    rw [List.append_assoc] at found
    rw [readMembers_member member read follows (count + 1) found, completing_nil completing, readMembers,
      nextMember_end behind]
    simp only [bind, Except.bind, List.append_assoc, advance_append]
  | @more m ms text before after others member first second written ih =>
    obtain ⟨g₁, completing, read⟩ := readNamed_read completing
    obtain ⟨tail, rfl⟩ := membersOf_head written
    simp only [List.length_append, List.length_cons] at enough
    obtain ⟨count, rfl⟩ : ∃ before, count = before + 1 := ⟨count - 1, by omega⟩
    have follows : Follows (before ++ ',' :: (after ++ '\x22' :: (tail ++ '\x7d' :: rest))) :=
      follows_append first (follows_cons (by decide))
    simp only [List.append_assoc, List.cons_append] at found
    rw [readMembers_member member read follows count found]
    have another := nextMember_another first second (tail ++ '\x7d' :: rest) (advance p text)
    rw [ih (by simp only [List.length_cons]; omega) completing another]
    simp only [List.append_assoc, List.cons_append, advance_append, advance_cons]

/-- An object is read as what its members give, in whatever order they stand. -/
theorem readGiven_read (object : ObjectOf members t) (completing : Completing .nothing g members)
    {blanks : List Char} (between : Blanks blanks) :
    readGiven ⟨blanks ++ (t ++ rest), p⟩ = .ok (g, ⟨rest, advance p (blanks ++ t)⟩) := by
  cases object with
  | empty inside =>
    simp only [readGiven, skipBlanks_append between, List.cons_append, skipBlanks_cons (c := '\x7b') rfl,
      next_cons, List.append_assoc, List.nil_append, readMembers, nextMember_end inside, bind, Except.bind,
      completing_nil completing, advance_append, advance_cons, advance_nil]
  | full inside written =>
    obtain ⟨tail, rfl⟩ := membersOf_head written
    have found := nextMember_first inside (tail ++ '\x7d' :: rest) ((advance p blanks).past '\x7b')
    simp only [readGiven, skipBlanks_append between, List.cons_append, skipBlanks_cons (c := '\x7b') rfl,
      next_cons, List.append_assoc, List.nil_append]
    rw [readMembers_read written (by simp; omega) completing found]
    simp only [List.cons_append, advance_append, advance_cons, advance_nil]

/-- A setting that stands among the members is one that may be given. -/
theorem given_of_holds {value : Option α} {values : List (List Char)} (holds : Holds writes value values) :
    ∃ given : Option (Option α), given.join = value ∧ Completes (OrNull writes) none values given := by
  cases value with
  | some value =>
    obtain ⟨text, written, single⟩ := holds
    exact ⟨some (some value), rfl, text, written, single⟩
  | none =>
    rcases holds with nothing | null
    · exact ⟨none, rfl, nothing⟩
    · exact ⟨some none, rfl, _, rfl, null⟩

theorem listing_of_giving {s : Settings} (giving : Giving s members) : Listing s members := by
  refine ⟨giving.baseUrl, giving.addressDomain, ?_, giving.timeoutSecs, giving.others⟩
  have named := giving.onMissingName
  cases policy : s.onMissingName with
  | none => rwa [policy] at named
  | some policy' =>
    rw [policy] at named
    obtain ⟨text, written, single⟩ := named
    exact ⟨text, .name written, single⟩

theorem completing_of_listing {s : Settings} (listing : Listing s members) :
    ∃ g, g.settings = s ∧ Completing .nothing g members := by
  obtain ⟨base, baseSame, baseGiven⟩ := given_of_holds listing.baseUrl
  obtain ⟨domain, domainSame, domainGiven⟩ := given_of_holds listing.addressDomain
  obtain ⟨policy, policySame, policyGiven⟩ := given_of_holds listing.onMissingName
  obtain ⟨timeout, timeoutSame, timeoutGiven⟩ := given_of_holds listing.timeoutSecs
  refine ⟨⟨base, domain, policy, timeout⟩, ?_,
    baseGiven, domainGiven, policyGiven, timeoutGiven, listing.others⟩
  rw [Given.settings, baseSame, domainSame, policySame, timeoutSame]

/-- Nothing but blanks may stand behind the settings. -/
theorem ofText_read {g : Given} {after : List Char} (last : Blanks after)
    (read : readGiven (.start t) = .ok (g, ⟨after, p⟩)) : ofText (String.ofList t) = .ok g.settings := by
  have ended := skipBlanks_append (t := []) (p := p) last
  simp only [List.append_nil] at ended
  simp only [ofText, String.toList_ofList, read, bind, Except.bind, ended, skipBlanks_nil, List.isEmpty_nil,
    ↓reduceIte]

theorem ofText_object {s : Settings} {before after : List Char} (first : Blanks before)
    (object : ObjectOf members t) (listing : Listing s members) (last : Blanks after) :
    ofText (String.ofList (before ++ (t ++ after))) = .ok s := by
  obtain ⟨g, rfl, completing⟩ := completing_of_listing listing
  exact ofText_read last (readGiven_read object completing first)

/-- A settings text is read as the settings that it gives. -/
theorem ofText_written {s : Settings} (written : Writes s t) : ofText (String.ofList t) = .ok s := by
  obtain ⟨first, object, giving, last⟩ := written
  exact ofText_object first object (listing_of_giving giving) last

end AuthorNames.SettingsText
