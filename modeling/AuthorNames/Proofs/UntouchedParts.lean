import AuthorNames.Proofs.AddedSegment
import AuthorNames.Proofs.BoundedRun

/-! What an identifier cannot touch. A base takes none if its path cannot be taken
apart, which its text shows; to every other it adds to the path and to nothing
else, in the parts of the URL and in the text that they are read from. So
whatever an input holds, a lookup asks the base's own server first, and with the
base's query. -/
namespace AuthorNames.UntouchedParts
open AuthorNames.Url AuthorNames.ReadPaths AuthorNames.PathText AuthorNames.AcceptedSettings
open AuthorNames.AddedSegment AuthorNames.LineSegments AuthorNames.Resolution
open AuthorNames.BoundedRun (occurrencesOf process_cons process_cons_refused requests_occurrencesOf)

/-- No slash follows the colon behind the scheme. -/
def CannotBeBase (url : Url) : Prop :=
  (url.text.toList.drop (url.scheme.toList.length + 1)).head? ≠ some '/'

/-- The second URL has the scheme, the user name, password, host and port, the
query and the fragment of the first. -/
structure SameButPath (base url : Url) : Prop where
  scheme : url.scheme = base.scheme
  authority : url.authority = base.authority
  query : url.query = base.query
  fragment : url.fragment = base.fragment

/-- The path cannot run into its neighbours in the text of the URL: it begins with
a slash if there is any, nothing in it ends it, and where no authority stands in
front it is not taken for one. -/
structure Delimited (url : Url) : Prop where
  rooted : ∀ first ∈ url.path.text.head?, first = '/'
  unended : ∀ c ∈ url.path.text, endsPath c = false
  alone : url.authority = none → ¬ ['/', '/'] <+: url.path.guard ++ url.path.text

/-- A page on that server is asked for, with that query. -/
def IsOnServer (authority : Authority) (query : Option String) (request : String) : Prop :=
  ∃ path : List Char, path.head? = some '/' ∧ (∀ c ∈ path, endsPath c = false) ∧
    request.toList = "http://".toList ++ authority.hostText ++ path ++ behind '?' query

variable {ctx : Context} {web : Web} {base url : Url} {authority : Authority} {identifier : String}
variable {settings : Settings}

/-! The parts in the text. -/

theorem head?_trailing (url : Url) : (trailing url).head? ≠ some '/' := by
  rw [trailing]
  cases url.query with
  | some query => simp [behind]
  | none => cases url.fragment <;> simp [behind]

theorem text_behind_scheme (url : Url) :
    url.text.toList.drop (url.scheme.toList.length + 1) =
      (url.authority.map Authority.text).getD [] ++ (url.path.guard ++ (url.path.text ++ trailing url)) := by
  have colon : url.scheme.toList.length + 1 = (url.scheme.toList ++ [':']).length := by simp
  have whole : url.text.toList = (url.scheme.toList ++ [':']) ++
      ((url.authority.map Authority.text).getD [] ++ (url.path.guard ++ (url.path.text ++ trailing url))) := by
    rw [toList_text, leading]
    simp only [List.append_assoc]
  rw [whole, colon, List.drop_left]

/-- A path that cannot be taken apart shows as such in the text. -/
theorem cannotBeBase_iff (formed : WellFormed url) : CannotBeBase url ↔ url.isOpaque = true := by
  rw [CannotBeBase, text_behind_scheme, isOpaque]
  cases formed with
  | @whole text path alone general unrooted =>
    rw [path, alone]
    refine iff_of_true ?_ rfl
    cases text with
    | nil => exact head?_trailing url
    | cons first rest => simpa [Path.guard, Path.text] using unrooted
  | @segments isGuarded list path inside nonempty =>
    rw [path]
    refine iff_of_false (not_not_intro ?_) Bool.false_ne_true
    cases bare : url.authority with
    | some authority => rfl
    | none =>
      cases isGuarded with
      | true => rfl
      | false =>
        rw [text_segments]
        change (written list ++ trailing url).head? = some '/'
        obtain ⟨rest, whole⟩ := written_eq_cons (nonempty (.inl bare))
        rw [whole]
        rfl

theorem delimited_of_wellFormed (formed : WellFormed url) (takesSegments : url.isOpaque = false) : Delimited url := by
  cases formed with
  | whole path =>
    rw [isOpaque, path] at takesSegments
    cases takesSegments
  | @segments isGuarded list path inside nonempty hosted guarded =>
    constructor
    · rw [path, text_segments]
      intro first begins
      cases list with
      | nil => cases begins
      | cons head rest => exact (Option.some.inj begins).symm
    · rw [path, text_segments]
      intro c member
      exact endsPath_written inside member
    · intro bare
      rw [path, text_segments]
      cases isGuarded with
      | true =>
        rintro ⟨rest, same⟩
        cases same
      | false => exact not_slashes_written inside (guarded bare rfl)

/-- An identifier leaves all parts but the path, and what keeps that apart. -/
theorem sameButPath_withSegment (added : base.withSegment? identifier = some url) :
    SameButPath base url ∧ url.path.guard = base.path.guard ∧ url.isOpaque = false := by
  rw [withSegment?] at added
  split at added
  · cases added
  · rename_i isGuarded list path
    cases added
    refine ⟨⟨rfl, rfl, rfl, rfl⟩, ?_, rfl⟩
    rw [path]
    cases isGuarded <;> rfl

/-- With an identifier the text of a URL changes only between what stands in front
of the path and what stands behind it. -/
theorem text_withSegment (added : base.withSegment? identifier = some url) :
    url.text.toList = leading base ++ url.path.text ++ trailing base := by
  obtain ⟨same, guard, -⟩ := sameButPath_withSegment added
  rw [toList_text, leading, trailing, same.scheme, same.authority, guard, same.query, same.fragment]
  rfl

/-! What is asked for. -/

/-- Nothing is asked for before the URL itself. -/
theorem head?_requests_follow (web : Web) (first : Url) (redirects : Nat) (url : Url) :
    (web.follow first redirects url).requests.head? =
      if url.isSendable = true ∧ (web.reply? url).isSome = true then some url.requestText else none := by
  rw [Web.follow.eq_def]
  cases sendable : url.isSendable with
  | false => simp [sendable]
  | true =>
    cases reply : web.reply? url with
    | none => simp [sendable, reply]
    | some sent =>
      cases sent with
      | dropped => simp [sendable, reply]
      | page page =>
        cases leads : page.target? url with
        | none => simp [sendable, reply, leads]
        | some target => cases redirects <;> simp [sendable, reply, leads]

theorem requests_lookup (added : ctx.base.withSegment? identifier = some url) (web : Web) :
    Occurrence.requests (ctx.lookup web identifier).occurrences = (web.fetch url).requests := by
  unfold Context.lookup Context.page
  rw [added]
  change ((web.fetch url).requests.map Occurrence.asked).filterMap Occurrence.request? = _
  rw [List.filterMap_map]
  exact List.filterMap_some

theorem requestText_withoutCredentials (hosted : url.authority = some authority) (unguarded : url.path.guard = []) :
    url.withoutCredentials.requestText.toList =
      url.scheme.toList ++ "://".toList ++ authority.hostText ++ url.path.text ++ behind '?' url.query := by
  simp [Url.requestText, Url.withoutCredentials, Url.text, Authority.text, Authority.credentials,
    Authority.hostText, hosted, unguarded, behind]

/-- A loop handles its values in order, as far as it comes, whatever becomes of
their lines. -/
theorem process_handles (ctx : Context) (web : Web) (values : List String) (output : Output) :
    ∃ handled, handled <+: values ∧
      (ctx.process web values output).occurrences = occurrencesOf ctx web handled := by
  induction values generalizing output with
  | nil => exact ⟨[], List.prefix_refl _, rfl⟩
  | cons value rest ih =>
    have alone : occurrencesOf ctx web [value] = (ctx.resolve web value).occurrences := by simp [occurrencesOf]
    have first : [value] <+: value :: rest := ⟨rest, rfl⟩
    cases result : (ctx.resolve web value).result with
    | error failure =>
      refine ⟨[value], first, ?_⟩
      rw [alone, Context.process]
      simp only [result]
    | ok record =>
      cases emitted : output.emit record with
      | mk after fault =>
        cases fault with
        | some fault =>
          refine ⟨[value], first, ?_⟩
          rw [alone, process_cons_refused result emitted]
        | none =>
          obtain ⟨handled, early, occurrences⟩ := ih after
          refine ⟨value :: handled, List.cons_prefix_cons.mpr ⟨rfl, early⟩, ?_⟩
          rw [process_cons result emitted, BoundedRun.behind, occurrences]
          rfl

theorem run_handles (ctx : Context) (web : Web) (input : Input) (output : Output) :
    ∃ handled, handled <+: identifiers (delivered input) ∧
      Occurrence.requests (ctx.run web input output).occurrences = handled.flatMap (requestsFor ctx web) := by
  obtain ⟨handled, early, occurrences⟩ := process_handles ctx web (identifiers (delivered input)) output
  refine ⟨handled, early, ?_⟩
  rw [Context.run, values_are_identifiers, occurrences, requests_occurrencesOf]

/-- Under plain HTTP a URL is asked for at its own server. -/
theorem isOnServer_of_wellFormed (formed : WellFormed url) (plain : url.scheme = "http") :
    ∃ authority, url.authority = some authority ∧
      IsOnServer authority url.query url.withoutCredentials.requestText := by
  obtain ⟨list, path, inside, nonempty, named⟩ := segments_of_web formed (kind_of_scheme (.inl plain))
  obtain ⟨authority, server⟩ := Option.ne_none_iff_exists'.mp named
  obtain ⟨rest, slash⟩ := written_eq_cons nonempty
  have unguarded : url.path.guard = [] := by rw [path]; rfl
  have shown : url.path.text = written list := by rw [path, text_segments]
  refine ⟨authority, server, url.path.text, ?_, ?_, ?_⟩
  · rw [shown, slash]
    rfl
  · rw [shown]
    intro c member
    exact endsPath_written inside member
  · rw [requestText_withoutCredentials server unguarded, plain]
    rfl

/-- Behind an accepted base of plain HTTP every lookup asks the base's server
first, if it asks at all. -/
theorem lookup_asks_server (accepted : settings.base = .ok ctx.base) (plain : ctx.base.scheme = "http")
    (hosted : ctx.base.authority = some authority) (web : Web) (identifier : String) :
    ∃ url, ctx.base.withSegment? identifier = some url ∧
      IsOnServer authority ctx.base.query url.withoutCredentials.requestText ∧
      (Occurrence.requests (ctx.lookup web identifier).occurrences).head? =
        if web.isReachable = true ∧ url.withoutCredentials.isSendable = true then
          some url.withoutCredentials.requestText
        else none := by
  have takesSegments := (base_accepted accepted).2
  cases added : ctx.base.withSegment? identifier with
  | none =>
    rw [withSegment?_eq_none_iff.mp added] at takesSegments
    cases takesSegments
  | some url =>
    obtain ⟨same, -⟩ := sameButPath_withSegment added
    have reaches : (web.reply? url.withoutCredentials).isSome = web.isReachable := by
      have scheme : url.withoutCredentials.scheme = "http" := same.scheme.trans plain
      rw [Web.reply?, scheme]
      cases web.isReachable <;> rfl
    refine ⟨url, rfl, ?_, ?_⟩
    · have formed := wellFormed_withSegment (wellFormed_of_accepted accepted) added
      obtain ⟨server, stays, asked⟩ := isOnServer_of_wellFormed formed (same.scheme.trans plain)
      rw [same.authority, hosted, Option.some.injEq] at stays
      rw [stays, ← same.query]
      exact asked
    · rw [requests_lookup added, Web.fetch, head?_requests_follow, reaches]
      simp only [and_comm]

/-- What a run asks for on behalf of a value, behind an accepted base of plain
HTTP, begins at the base's server. -/
theorem value_asks_server (accepted : settings.base = .ok ctx.base) (plain : ctx.base.scheme = "http")
    (hosted : ctx.base.authority = some authority) (web : Web) (value : String) :
    ∀ first ∈ (requestsFor ctx web value).head?, IsOnServer authority ctx.base.query first := by
  intro first begins
  obtain ⟨url, -, onServer, head⟩ := lookup_asks_server accepted plain hosted web value
  rw [requestsFor] at begins
  split at begins
  · cases begins
  · rw [head] at begins
    split at begins
    · rw [Option.mem_some_iff] at begins
      rwa [← begins]
    · cases begins

/-- Asking for a page fails at the base only if that takes no segment. -/
theorem page_opaque_iff (ctx : Context) (web : Web) (identifier : String) :
    (ctx.page web identifier).result = .error (.config (.opaqueBase ctx.base.text)) ↔ ctx.base.isOpaque = true := by
  rw [← withSegment?_eq_none_iff, Context.page]
  cases ctx.base.withSegment? identifier with
  | none => simp
  | some url =>
    dsimp only
    generalize (web.fetch url).outcome = outcome
    cases outcome <;> simp [Except.mapError]

/-- **An identifier touches nothing but the path.** Behind every base it has a URL
unless the path of that cannot be taken apart, which is the one failure there
is before anything is asked for. The URL has all other parts of the base, and is
written like it but for the path. Of a base that was read, the text shows whether
its path can be taken apart, and the new path runs into none of its neighbours.
Under settings that were accepted, with a base of plain HTTP, what a lookup asks
for first is at the server of the base and has its query, and a run asks for
nothing but what the lookups of its first values ask for. -/
theorem identifier_touches_only_path :
    (∀ (base : Url) (identifier : String),
      (base.withSegment? identifier = none ↔ base.isOpaque = true) ∧
      (∀ (ctx : Context) (web : Web), ctx.base = base →
        ((ctx.page web identifier).result = .error (.config (.opaqueBase base.text)) ↔ base.isOpaque = true)) ∧
      ∀ url, base.withSegment? identifier = some url →
        SameButPath base url ∧ url.text.toList = leading base ++ url.path.text ++ trailing base) ∧
    (∀ (source : String) (base : Url), Url.parse source = .ok base →
      (base.isOpaque = true ↔ CannotBeBase base) ∧
      ∀ (identifier : String) (url : Url), base.withSegment? identifier = some url → Delimited url) ∧
    ∀ (files : Files) (request : CommandLine.Request) (ctx : Context),
      Context.ofRequest files request = .ok ctx → ctx.base.scheme = "http" →
      ∃ authority, ctx.base.authority = some authority ∧ ∀ web : Web,
        (∀ identifier, ∃ url, ctx.base.withSegment? identifier = some url ∧
          IsOnServer authority ctx.base.query url.withoutCredentials.requestText ∧
          (Occurrence.requests (ctx.lookup web identifier).occurrences).head? =
            if web.isReachable = true ∧ url.withoutCredentials.isSendable = true then
              some url.withoutCredentials.requestText
            else none) ∧
        ∀ (input : Input) (output : Output), ∃ handled, handled <+: identifiers (delivered input) ∧
          Occurrence.requests (ctx.run web input output).occurrences = handled.flatMap (requestsFor ctx web) ∧
          ∀ value ∈ handled, ∀ first ∈ (requestsFor ctx web value).head?,
            IsOnServer authority ctx.base.query first := by
  refine ⟨fun base identifier => ⟨withSegment?_eq_none_iff, ?_, ?_⟩, ?_, ?_⟩
  · rintro ctx web rfl
    exact page_opaque_iff ctx web identifier
  · intro url added
    exact ⟨(sameButPath_withSegment added).1, text_withSegment added⟩
  · intro source base read
    have formed := wellFormed_of_parse read
    refine ⟨(cannotBeBase_iff formed).symm, fun identifier url added => ?_⟩
    exact delimited_of_wellFormed (wellFormed_withSegment formed added) (sameButPath_withSegment added).2.2
  · intro files request ctx accepted plain
    obtain ⟨settings, -, made⟩ := settings_of_request accepted
    have baseAccepted := (fields_of_settings made).1
    obtain ⟨authority, hosted, -⟩ := isOnServer_of_wellFormed (wellFormed_of_accepted baseAccepted) plain
    refine ⟨authority, hosted, fun web => ?_⟩
    refine ⟨lookup_asks_server baseAccepted plain hosted web, fun input output => ?_⟩
    obtain ⟨handled, early, requests⟩ := run_handles ctx web input output
    exact ⟨handled, early, requests, fun value _ => value_asks_server baseAccepted plain hosted web value⟩

/-- A base with all parts. -/
def crowdedBase : Url :=
  ⟨"http", some ⟨"u", "p", .ipv6 [0, 0, 0, 0, 0, 0, 0, 1], some 81⟩, .segments false ["a"], some "q", some "f"⟩

/-- An identifier of signs that end parts of a URL is escaped into the path of the
request. -/
theorem signs_touch_only_path :
    let request : CommandLine.Request :=
      { CommandLine.Request.empty with baseUrl := some "http://u:p@[::1]:81/a?q#f" }
    let ctx : Context := ⟨crowdedBase, none, "users.sourceforge.net", .abort⟩
    Url.parse "http://u:p@[::1]:81/a?q#f" = .ok crowdedBase ∧
      Context.ofRequest ⟨fun _ => none, some ⟨none⟩⟩ request = .ok ctx ∧
      ¬ CannotBeBase crowdedBase ∧
      (∃ url, crowdedBase.withSegment? "?#@:/\\.." = some url ∧ SameButPath crowdedBase url ∧ Delimited url ∧
        url.text = "http://u:p@[::1]:81/a/%3F%23@:%2F%5C..?q#f") ∧
      (Occurrence.requests (ctx.lookup ⟨true, []⟩ "?#@:/\\..").occurrences).head? =
        some "http://[::1]:81/a/%3F%23@:%2F%5C..?q" := by
  intro request ctx
  have read : Url.parse "http://u:p@[::1]:81/a?q#f" = .ok crowdedBase := by decide +kernel
  have accepted : Context.ofRequest ⟨fun _ => none, some ⟨none⟩⟩ request = .ok ctx := by decide +kernel
  obtain ⟨parts, shown, run⟩ := identifier_touches_only_path
  obtain ⟨takes, kept⟩ := shown _ crowdedBase read
  obtain ⟨authority, -, asks⟩ := run _ request ctx accepted rfl
  obtain ⟨url, added, -, head⟩ := (asks ⟨true, []⟩).1 "?#@:/\\.."
  obtain ⟨same, -⟩ := (parts crowdedBase "?#@:/\\..").2.2 url added
  have text : (crowdedBase.withSegment? "?#@:/\\..").map Url.text =
      some "http://u:p@[::1]:81/a/%3F%23@:%2F%5C..?q#f" := by decide +kernel
  have asked : (crowdedBase.withSegment? "?#@:/\\..").map (·.withoutCredentials.requestText) =
      some "http://[::1]:81/a/%3F%23@:%2F%5C..?q" := by decide +kernel
  have sendable : (crowdedBase.withSegment? "?#@:/\\..").map (·.withoutCredentials.isSendable) = some true := by
    decide +kernel
  have base : ctx.base = crowdedBase := rfl
  rw [base] at added
  rw [added] at text asked sendable
  rw [if_pos ⟨rfl, Option.some.inj sendable⟩] at head
  refine ⟨read, accepted, fun closed => ?_, ⟨url, added, same, kept _ url added, Option.some.inj text⟩,
    head.trans asked⟩
  exact Bool.false_ne_true (takes.mpr closed)

end AuthorNames.UntouchedParts
