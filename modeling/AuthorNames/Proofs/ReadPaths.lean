import AuthorNames.Proofs.AcceptedSettings
import AuthorNames.Proofs.PercentEscapes
import AuthorNames.Url.Parser
import Mathlib.Data.List.TakeWhile

/-! What reading leaves of a URL's path. A segment holds none of the signs that
would end it or the path, whatever was written, so that the parts of a URL can
be told apart in its text; and under the schemes of the web there is always a
segment. Adding a segment keeps all of this. -/
namespace AuthorNames.ReadPaths
open AuthorNames.Url AuthorNames.PercentEscapes AuthorNames.AcceptedSettings
open AuthorNames.Unicode (splitWhere)

/-- All characters of all segments are of one kind. -/
def Throughout (kind : Char → Prop) (list : List (List Char)) : Prop :=
  ∀ segment ∈ list, ∀ c ∈ segment, kind c

/-- No segment holds a slash or a sign that ends the path. -/
def Inside : List (List Char) → Prop :=
  Throughout fun c => c ≠ '/' ∧ endsPath c = false

/-- Written out, the segments begin with two slashes, as an authority does. -/
def BeginsAsAuthority (list : List (List Char)) : Prop :=
  1 < list.length ∧ list.head? = some []

/-- The paths that reading makes. One that cannot be taken apart stands behind
no authority and does not begin with a slash. Segments are read whatever stands
in front of them, and a guard only where that is no authority; without either
they do not begin as an authority does. -/
inductive WellFormed (url : Url) : Prop where
  | whole {text : List Char} (path : url.path = .whole (String.ofList text)) (alone : url.authority = none)
      (general : url.kind.isSpecial = false) (unrooted : text.head? ≠ some '/')
      (inside : ∀ c ∈ text, endsPath c = false)
  | segments {isGuarded : Bool} {list : List (List Char)}
      (path : url.path = .segments isGuarded (list.map String.ofList)) (inside : Inside list)
      (nonempty : url.authority = none ∨ url.kind.isSpecial = true → list ≠ [])
      (hosted : url.kind.isSpecial = true → isGuarded = false ∧ url.authority ≠ none)
      (guarded : url.authority = none → isGuarded = false → ¬ BeginsAsAuthority list)

variable {kind : Kind} {closed pieces list : List (List Char)} {segment text : List Char} {c : Char} {url : Url}

/-! Pieces of a text. -/

theorem splitWhere_ne_nil (separates : Char → Bool) (text : List Char) : splitWhere separates text ≠ [] := by
  cases text with
  | nil => exact List.cons_ne_nil _ _
  | cons c rest =>
    rw [splitWhere, List.foldr_cons]
    split
    · exact List.cons_ne_nil _ _
    · split <;> exact List.cons_ne_nil _ _

/-- A piece of a text holds characters of the text, and no separator. -/
theorem mem_of_mem_piece {separates : Char → Bool} {piece : List Char}
    (member : piece ∈ splitWhere separates text) (inside : c ∈ piece) : c ∈ text ∧ separates c = false := by
  induction text generalizing piece with
  | nil =>
    rw [splitWhere, List.foldr_nil, List.mem_singleton] at member
    rw [member] at inside
    cases inside
  | cons first rest ih =>
    rw [splitWhere, List.foldr_cons, ← splitWhere] at member
    obtain ⟨begun, others, pieces⟩ := List.exists_cons_of_ne_nil (splitWhere_ne_nil separates rest)
    rw [pieces] at ih member
    have further {piece : List Char} (among : piece ∈ begun :: others) (inside : c ∈ piece) :
        c ∈ first :: rest ∧ separates c = false :=
      (ih among inside).imp_left (List.mem_cons_of_mem first)
    split at member
    · rcases List.mem_cons.mp member with rfl | later
      · cases inside
      · exact further later inside
    · rename_i letter
      dsimp only at member
      rcases List.mem_cons.mp member with rfl | later
      · rcases List.mem_cons.mp inside with rfl | behind
        · exact ⟨List.mem_cons_self, by simpa using letter⟩
        · exact further List.mem_cons_self behind
      · exact further (List.mem_cons_of_mem _ later) inside

/-- A digit of an escape and its percent sign may stand in a segment. -/
theorem inside_of_escape (escaped : c = '%' ∨ IsDigit c) : c ≠ '/' ∧ endsPath c = false := by
  rcases escaped with rfl | digit
  · decide
  · have plain := (isDigit_plain digit).2
    simp only [List.mem_cons, List.not_mem_nil, or_false, not_or] at plain
    simp [endsPath, plain]

/-- What the escapes of a path leave as it was ends no path. -/
theorem endsPath_of_path (kept : Percent.path c = false) : endsPath c = false := by
  simp only [Percent.path, Bool.or_eq_false_iff] at kept
  simp [endsPath, kept]

theorem inside_pieces (kind : Kind) (text : List Char) :
    Inside ((splitWhere (isSeparator kind) text).map (Percent.encode Percent.path)) := by
  intro segment member c within
  obtain ⟨piece, among, rfl⟩ := List.mem_map.mp member
  rcases mem_encode within with ⟨written, kept⟩ | escaped
  · have letter := (mem_of_mem_piece among written).2
    simp only [isSeparator, Bool.or_eq_false_iff, beq_eq_false_iff_ne] at letter
    exact ⟨letter.1, endsPath_of_path kept⟩
  · exact inside_of_escape escaped

/-! Places. -/

section Places

variable {holds : Char → Prop}

theorem throughout_append {first second : List (List Char)} (front : Throughout holds first)
    (back : Throughout holds second) : Throughout holds (first ++ second) := by
  intro segment member
  rcases List.mem_append.mp member with here | there
  · exact front segment here
  · exact back segment there

theorem throughout_empty : Throughout holds [[]] := by
  intro segment member c within
  rw [List.mem_singleton] at member
  rw [member] at within
  cases within

theorem throughout_sublist {part : List (List Char)} (within : part.Sublist list)
    (whole : Throughout holds list) : Throughout holds part :=
  fun segment member => whole segment (within.subset member)

theorem leave_sublist (closed : List (List Char)) : (leave closed).Sublist closed := by
  rw [leave]
  split
  · split
    · exact List.Sublist.refl _
    · exact List.dropLast_sublist _
  · exact List.nil_sublist _

theorem dropEmptyFront_sublist (list : List (List Char)) : (dropEmptyFront list).Sublist list := by
  fun_induction dropEmptyFront list with
  | case1 segment rest ih => exact ih.cons _
  | case2 => exact List.Sublist.refl _

theorem dropEmptyBack_sublist (list : List (List Char)) : (dropEmptyBack list).Sublist list := by
  rw [dropEmptyBack]
  split
  · exact List.dropLast_sublist _
  · exact List.Sublist.refl _

theorem base_sublist (list : List (List Char)) : (base list).Sublist list := by
  rw [Url.base]
  split
  · exact List.nil_sublist _
  · exact List.Sublist.refl _

theorem throughout_settle (whole : Throughout holds list) : Throughout holds (settle kind list) := by
  rw [settle]
  split
  · exact throughout_sublist (dropEmptyFront_sublist list) whole
  · exact whole

-- The colon of a drive is the one character that reading puts into a segment.
variable (colon : holds ':')
include colon

theorem throughout_atFront (kind : Kind) (closed : List (List Char)) (whole : Throughout holds [segment]) :
    Throughout holds [atFront kind closed segment] := by
  rw [atFront]
  split
  · intro other member c within
    rw [List.mem_singleton] at member
    rw [member, List.mem_append] at within
    rcases within with letter | last
    · exact whole segment List.mem_cons_self c (List.mem_of_mem_take letter)
    · rwa [List.mem_singleton.mp last]
  · exact whole

theorem throughout_close (before : Throughout holds closed) (whole : Throughout holds [segment]) :
    Throughout holds (close kind closed segment) := by
  rw [close]
  split
  · exact throughout_sublist (leave_sublist closed) before
  · split
    · exact before
    · exact throughout_append before (throughout_atFront colon kind closed whole)

theorem throughout_finish (before : Throughout holds closed) (whole : Throughout holds [segment]) :
    Throughout holds (finish kind closed segment) := by
  rw [finish]
  split
  · exact throughout_append (throughout_sublist (leave_sublist closed) before) throughout_empty
  · split
    · exact throughout_append before throughout_empty
    · exact throughout_append before (throughout_atFront colon kind closed whole)

theorem throughout_walk (before : Throughout holds closed) (written : Throughout holds pieces) :
    Throughout holds (walk kind closed pieces) := by
  induction pieces generalizing closed with
  | nil => exact before
  | cons segment rest ih =>
    have here : Throughout holds [segment] :=
      throughout_sublist (List.singleton_sublist.mpr List.mem_cons_self) written
    cases rest with
    | nil => exact throughout_finish colon before here
    | cons next rest =>
      exact ih (throughout_close colon before here) (throughout_sublist (List.sublist_cons_self _ _) written)

theorem throughout_readSegments (text : List Char)
    (written : Throughout holds ((splitWhere (isSeparator kind) text).map (Percent.encode Percent.path))) :
    Throughout holds (readSegments kind text) := by
  apply throughout_settle
  apply throughout_walk colon
  · intro segment member
    cases member
  · exact written

theorem throughout_push (before : Throughout holds list)
    (written : Throughout holds
      [Percent.encode (Percent.segment kind.isSpecial) (segment.filter (!isBreak ·))]) :
    Throughout holds (push kind list segment) := by
  have back := throughout_sublist (dropEmptyBack_sublist list) before
  unfold push
  dsimp only
  split
  · exact back
  · apply throughout_settle
    exact throughout_finish colon (throughout_sublist (base_sublist _) back) written

end Places

theorem inside_readSegments (kind : Kind) (text : List Char) : Inside (readSegments kind text) :=
  throughout_readSegments (by decide) text (inside_pieces kind text)

/-! There is always a last segment. -/

theorem finish_ne_nil (kind : Kind) (closed : List (List Char)) (segment : List Char) :
    finish kind closed segment ≠ [] := by
  rw [finish]
  split
  · simp
  · split <;> simp

theorem walk_ne_nil (nonempty : pieces ≠ []) : walk kind closed pieces ≠ [] := by
  induction pieces generalizing closed with
  | nil => exact absurd rfl nonempty
  | cons segment rest ih =>
    cases rest with
    | nil => exact finish_ne_nil kind closed segment
    | cons next rest => exact ih (List.cons_ne_nil next rest)

theorem settle_ne_nil (nonempty : list ≠ []) : settle kind list ≠ [] := by
  rw [settle]
  split
  · fun_induction dropEmptyFront list with
    | case1 segment rest ih => exact ih (List.cons_ne_nil segment rest)
    | case2 => exact nonempty
  · exact nonempty

theorem readSegments_ne_nil (kind : Kind) (text : List Char) : readSegments kind text ≠ [] := by
  apply settle_ne_nil
  apply walk_ne_nil
  rw [ne_eq, List.map_eq_nil_iff]
  exact splitWhere_ne_nil _ _

/-! URLs that are read. -/

theorem endsPath_mem_takeWhile (member : c ∈ text.takeWhile (!endsPath ·)) : endsPath c = false := by
  simpa using List.mem_takeWhile_imp member

/-- Behind an authority there may be no segment at all, but not under the schemes of the web. -/
theorem wellFormed_behindAuthority (scheme : String) (authority : Authority) (text : List Char) :
    WellFormed (behindAuthority scheme authority text) := by
  refine .segments rfl ?_ ?_ (fun _ => ⟨rfl, Option.some_ne_none _⟩) ?_
  · split
    · intro segment member
      cases member
    · exact inside_readSegments _ _
  · rintro (none | special)
    · cases none
    · split
      · rename_i bare
        have other := bare.1
        rw [show (Kind.ofScheme scheme).isSpecial = true from special] at other
        cases other
      · exact readSegments_ne_nil _ _
  · intro none
    cases none

theorem wellFormed_fileUrl (host : Host) (text : List Char) : WellFormed (fileUrl host text) := by
  refine .segments rfl (inside_readSegments .file _) (fun _ => readSegments_ne_nil _ _)
    (fun _ => ⟨rfl, Option.some_ne_none _⟩) ?_
  intro none
  cases none

/-- Whatever comes out of reading is of a kind. -/
def Makes {α : Type} (holds : α → Prop) (read : Except Fault α) : Prop :=
  ∀ value, read = .ok value → holds value

section Makes

variable {α β : Type} {holds : α → Prop} {before : β → Prop}

theorem makes_ok {value : α} (made : holds value) : Makes holds (.ok value) := by
  intro other same
  cases same
  exact made

theorem makes_error (fault : Fault) : Makes holds (.error fault) := by
  intro value read
  cases read

theorem makes_any (read : Except Fault β) : Makes (fun _ => True) read :=
  fun _ _ => trivial

theorem makes_ite {condition : Prop} [Decidable condition] {first second : Except Fault α}
    (met : Makes holds first) (unmet : Makes holds second) : Makes holds (if condition then first else second) := by
  split
  · exact met
  · exact unmet

theorem makes_bind {first : Except Fault β} {next : β → Except Fault α} (came : Makes before first)
    (made : ∀ value, before value → Makes holds (next value)) : Makes holds (first >>= next) := by
  intro value read
  obtain ⟨middle, first, read⟩ := bind_ok read
  exact made middle (came middle first) value read

/-- A check in front makes no difference to what comes out. -/
theorem makes_unless {condition : Prop} [Decidable condition] {check : Except Fault β} {next : Except Fault α}
    (made : Makes holds next) : Makes holds (if condition then check >>= fun _ => next else next) :=
  makes_ite (makes_bind (makes_any _) fun _ _ => made) made

end Makes

theorem makes_parseWithAuthority (scheme : String) (text : List Char) :
    Makes WellFormed (parseWithAuthority scheme text) :=
  makes_bind (makes_any _) fun _ _ => makes_ok (wellFormed_behindAuthority _ _ _)

theorem makes_parseFile (text : List Char) : Makes WellFormed (parseFile text) := by
  have file (host : Host) (rest : List Char) : Makes WellFormed (.ok (fileUrl host rest)) :=
    makes_ok (wellFormed_fileUrl host rest)
  have host (read : Except Fault Host) (rest behind : List Char) :
      Makes WellFormed (do
        let host ← read
        if host = .none ∨ host = .name "localhost" then return fileUrl .none rest
        return fileUrl host behind) :=
    makes_bind (makes_any _) fun _ _ => makes_ite (file _ _) (file _ _)
  unfold parseFile
  dsimp only
  apply makes_ite
  · apply makes_ite
    · apply makes_ite
      · exact file _ _
      · exact makes_ite (host _ _ _) (host _ _ _)
    · exact file _ _
  · exact file _ _

/-- What is written begins as the text does, or with an escape. -/
theorem head_encode_ne_slash {set : Percent.EscapeSet} (unrooted : text.head? ≠ some '/') :
    (Percent.encode set text).head? ≠ some '/' := by
  cases text with
  | nil => exact unrooted
  | cons c rest =>
    intro begins
    rw [Percent.encode, List.flatMap_cons, Percent.escape] at begins
    split at begins
    · obtain ⟨byte, bytes, nonempty⟩ := List.exists_cons_of_ne_nil (String.utf8EncodeChar_ne_nil (c := c))
      rw [nonempty] at begins
      cases begins
    · exact unrooted begins

theorem makes_parseOther {scheme : String} (other : Kind.ofScheme scheme = .other) (text : List Char) :
    Makes WellFormed (parseOther scheme text) := by
  have general : (Kind.ofScheme scheme).isSpecial = false := by rw [other]; rfl
  unfold parseOther
  split
  · exact makes_parseWithAuthority _ _
  · apply makes_ok
    refine .segments rfl (inside_readSegments .other _) (fun _ => readSegments_ne_nil _ _) ?_ ?_
    · intro special
      exact absurd special (by rw [Url.kind, general]; exact Bool.false_ne_true)
    rintro - unguarded ⟨long, begins⟩
    simp [long, begins] at unguarded
  · rename_i rootless
    apply makes_ok
    refine .whole rfl rfl general ?_ ?_
    · apply head_encode_ne_slash
      intro begins
      obtain ⟨rest, same⟩ := List.head?_eq_some_iff.mp begins
      obtain ⟨tail, whole⟩ := List.takeWhile_prefix (l := text) (!endsPath ·)
      rw [same] at whole
      exact rootless _ whole.symm
    · intro c member
      rcases mem_encode member with ⟨written, -⟩ | escaped
      · exact endsPath_mem_takeWhile written
      · exact (inside_of_escape escaped).2

/-- **What is read has a path that can be told apart from all else.** -/
theorem wellFormed_of_parse {source : String} (read : Url.parse source = .ok url) : WellFormed url := by
  unfold Url.parse at read
  split at read
  · cases read
  · split at read
    · exact makes_parseWithAuthority _ _ url read
    · exact makes_parseFile _ url read
    · rename_i other
      exact makes_parseOther other _ url read

/-- A base URL that was accepted has a path that can be told apart from all else. -/
theorem wellFormed_of_accepted {settings : Settings} (accepted : settings.base = .ok url) : WellFormed url := by
  obtain ⟨⟨source, read⟩, -⟩ := base_accepted accepted
  exact wellFormed_of_parse read

/-! Adding a segment. -/

/-- A segment that is added stays one segment. -/
theorem inside_written (isSpecial : Bool) (text : List Char) :
    Inside [Percent.encode (Percent.segment isSpecial) text] := by
  intro segment member c within
  rw [List.mem_singleton] at member
  rw [member] at within
  rcases mem_encode within with ⟨-, kept⟩ | escaped
  · simp only [Percent.segment, Bool.or_eq_false_iff, beq_eq_false_iff_ne] at kept
    exact ⟨kept.1.1.2, endsPath_of_path kept.1.1.1⟩
  · exact inside_of_escape escaped

theorem inside_push (inside : Inside list) : Inside (push kind list segment) :=
  throughout_push (by decide) inside (inside_written _ _)

theorem dropEmptyBack_ne_nil (nonempty : list ≠ []) : dropEmptyBack list ≠ [] := by
  rw [dropEmptyBack]
  split
  · rename_i ends
    have long := ends.1
    intro none
    have length := congrArg List.length none
    rw [List.length_dropLast, List.length_nil] at length
    omega
  · exact nonempty

theorem push_ne_nil (nonempty : list ≠ []) : push kind list segment ≠ [] := by
  unfold push
  dsimp only
  split
  · exact dropEmptyBack_ne_nil nonempty
  · exact settle_ne_nil (finish_ne_nil _ _ _)

theorem beginsAsAuthority_mono {front : List (List Char)} (within : front <+: list) (begins : BeginsAsAuthority front) :
    BeginsAsAuthority list := by
  obtain ⟨back, rfl⟩ := within
  constructor
  · have long := begins.1
    rw [List.length_append]
    omega
  · rw [List.head?_append, begins.2]
    rfl

theorem dropEmptyBack_isPrefix (list : List (List Char)) : dropEmptyBack list <+: list := by
  rw [dropEmptyBack]
  split
  · exact List.dropLast_prefix _
  · exact List.prefix_refl _

theorem leave_isPrefix (closed : List (List Char)) : leave closed <+: closed := by
  rw [leave]
  split
  · split
    · exact List.prefix_refl _
    · exact List.dropLast_prefix _
  · exact List.nil_prefix

/-- One segment more does not make two slashes of one: a lone empty segment is
the root, and is not kept in front of another. -/
theorem not_beginsAsAuthority_append (single : ¬ BeginsAsAuthority list) (within : closed <+: base list) :
    ¬ BeginsAsAuthority (closed ++ [segment]) := by
  rintro ⟨long, begins⟩
  cases closed with
  | nil => simp at long
  | cons first rest =>
    obtain ⟨others, whole⟩ := within
    rw [Url.base] at whole
    split at whole
    · cases whole
    · rename_i more
      rw [List.cons_append, List.head?_cons, Option.some.injEq] at begins
      subst begins
      rw [← whole, List.cons_append] at more single
      apply single
      constructor
      · cases tail : rest ++ others with
        | nil => rw [tail] at more; exact absurd rfl more
        | cons next rest => simp
      · rfl

theorem not_beginsAsAuthority_dropEmptyFront (list : List (List Char)) : ¬ BeginsAsAuthority (dropEmptyFront list) := by
  fun_induction dropEmptyFront list with
  | case1 segment rest ih => exact ih
  | case2 list other =>
    rintro ⟨long, begins⟩
    cases list with
    | nil => cases begins
    | cons first rest =>
      cases rest with
      | nil => simp at long
      | cons next rest =>
        cases begins
        exact other next rest rfl

theorem not_beginsAsAuthority_push (single : ¬ BeginsAsAuthority list) :
    ¬ BeginsAsAuthority (push kind list segment) := by
  have back : ¬ BeginsAsAuthority (dropEmptyBack list) := fun begins =>
    single (beginsAsAuthority_mono (dropEmptyBack_isPrefix list) begins)
  unfold push
  dsimp only
  split
  · exact back
  · rw [settle]
    split
    · exact not_beginsAsAuthority_dropEmptyFront _
    · have whole := List.prefix_refl (base (dropEmptyBack list))
      rw [finish]
      split
      · exact not_beginsAsAuthority_append back (leave_isPrefix _)
      · split
        · exact not_beginsAsAuthority_append back whole
        · exact not_beginsAsAuthority_append back whole

/-- A URL with one segment more is like one that was read. -/
theorem wellFormed_withSegment {base : Url} {identifier : String} (formed : WellFormed base)
    (added : base.withSegment? identifier = some url) : WellFormed url := by
  rw [Url.withSegment?] at added
  cases formed with
  | whole path =>
    rw [path] at added
    cases added
  | segments path inside nonempty hosted guarded =>
    rw [path] at added
    simp only [List.map_map, Function.comp_def, String.toList_ofList, List.map_id', Option.some.injEq] at added
    subst added
    refine .segments rfl (inside_push inside) (fun ends => push_ne_nil (nonempty ends)) hosted ?_
    intro alone unguarded
    exact not_beginsAsAuthority_push (guarded alone unguarded)

end AuthorNames.ReadPaths
