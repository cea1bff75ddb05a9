import AuthorNames.Lookup

/-! Each value is resolved on its own, and of all settings only the policy
decides whether a page without a name is an outcome or a failure. The record of
a value, the pages asked for on its behalf and the one way in which it can fail
are given here in terms of the value, so that what is said about runs need not
open a lookup. -/
namespace AuthorNames.Resolution

/-- Whether the page of an identifier can be had and shows no name. -/
def hasNamelessPage (ctx : Context) (web : Web) (identifier : String) : Bool :=
  match ctx.base.withSegment? identifier with
  | none => false
  | some url =>
    match (web.fetch url).outcome with
    | .error _ => false
    | .ok page => (Profile.displayName? (String.ofList page)).isNone

/-- Whether a value is an author's and its page can be had but shows no name. -/
def isNameless (ctx : Context) (web : Web) (value : String) : Bool :=
  value ≠ noAuthor && hasNamelessPage ctx web value

/-- The name shown for an author: the one on the page, or else the identifier. -/
def shownName (ctx : Context) (web : Web) (identifier : String) : String :=
  match (ctx.lookup web identifier).result with
  | .ok (.fetched name) => name
  | _ => identifier

/-- What is shown for a value. -/
def display (ctx : Context) (web : Web) (value : String) : String :=
  if value = noAuthor then noAuthor
  else shownName ctx web value ++ " <" ++ value ++ "@" ++ ctx.domain ++ ">"

/-- The URLs asked for on behalf of a value. Nobody has no page. -/
def requestsFor (ctx : Context) (web : Web) (value : String) : List String :=
  if value = noAuthor then [] else Occurrence.requests (ctx.lookup web value).occurrences

/-- The settings under another policy. -/
def under (ctx : Context) (policy : MissingNamePolicy) : Context :=
  { ctx with policy }

variable {ctx : Context} {web : Web} {value identifier : String} {record : Record} {failure : Failure}

theorem resolve_noAuthor : ctx.resolve web noAuthor = ⟨[], .ok ⟨noAuthor, noAuthor⟩⟩ := rfl

theorem resolve_author (author : value ≠ noAuthor) :
    ctx.resolve web value = ctx.conclude value (ctx.applyPolicy (ctx.lookup web value)) := by
  rw [Context.resolve, Identity.of, if_neg author]

/-- A lookup tells apart a base that takes no segment, a page that cannot be
had, and a page with or without a name. -/
theorem lookup_result (ctx : Context) (web : Web) (identifier : String) :
    (ctx.lookup web identifier).result =
      match ctx.base.withSegment? identifier with
      | none => .error (.config (.opaqueBase ctx.base.text))
      | some url =>
        match (web.fetch url).outcome with
        | .error fault => .ok (.fallback (.noPage fault.message))
        | .ok page =>
          match Profile.displayName? (String.ofList page) with
          | some name => .ok (.fetched name)
          | none => .error (.missingDisplayName identifier) := by
  unfold Context.lookup Context.page
  cases ctx.base.withSegment? identifier with
  | none => rfl
  | some url =>
    dsimp only
    -- Nothing below depends on how the fetch went about it.
    generalize (web.fetch url).outcome = outcome
    cases outcome with
    | error fault => rfl
    | ok page =>
      have had : Except.mapError Failure.http (.ok page) = .ok page := rfl
      cases shown : Profile.displayName? (String.ofList page) with
      | some name => simp only [had, shown]
      | none => simp only [had, shown]

/-- A name is missing exactly where a page can be had that shows none, and it is
the looked-up identifier's own. -/
theorem lookup_missing_iff {other : String} :
    (ctx.lookup web identifier).result = .error (.missingDisplayName other) ↔
      hasNamelessPage ctx web identifier = true ∧ other = identifier := by
  rw [lookup_result, hasNamelessPage]
  cases ctx.base.withSegment? identifier with
  | none => simp
  | some url =>
    dsimp only
    generalize (web.fetch url).outcome = outcome
    cases outcome with
    | error fault => simp
    | ok page =>
      dsimp only
      generalize Profile.displayName? (String.ofList page) = name
      cases name with
      | some name => simp
      | none => simp [eq_comm]

/-- The policy leaves every lookup alone that does not miss a name. -/
theorem resolve_named (author : value ≠ noAuthor) (named : isNameless ctx web value = false) :
    ctx.resolve web value = ctx.conclude value (ctx.lookup web value) := by
  rw [resolve_author author, Context.applyPolicy]
  split
  · rename_i other _ missing _
    rw [isNameless, (lookup_missing_iff.mp missing).1] at named
    simp [author] at named
  · rfl

/-- A page without a name ends the resolution or is one more reason to fall
back, as the policy says. -/
theorem resolve_nameless (nameless : isNameless ctx web value = true) :
    ctx.resolve web value =
      match ctx.policy with
      | .abort => ⟨(ctx.lookup web value).occurrences, .error (.missingDisplayName value)⟩
      | .fallback =>
        ⟨(ctx.lookup web value).occurrences ++ [.told (.nameless value)] ++
            [.told (.fallingBack value .namelessPage)],
          .ok (ctx.recordOf value value)⟩ := by
  obtain ⟨author, page⟩ : value ≠ noAuthor ∧ hasNamelessPage ctx web value = true := by
    simpa [isNameless] using nameless
  have missing := lookup_missing_iff.mpr ⟨page, rfl⟩
  rw [resolve_author author, Context.applyPolicy, missing]
  cases ctx.policy with
  | abort => simp only [Context.conclude, missing]
  | fallback => rfl

/-- A value's record shows the value and what is displayed for it. -/
theorem resolve_record (resolved : (ctx.resolve web value).result = .ok record) :
    record = ⟨value, display ctx web value⟩ := by
  by_cases nobody : value = noAuthor
  · subst nobody
    exact (Except.ok.inj resolved).symm
  rw [display, if_neg nobody, shownName]
  cases nameless : isNameless ctx web value with
  | false =>
    rw [resolve_named nobody nameless, Context.conclude] at resolved
    split at resolved
    · cases resolved
    · rename_i name fetched
      rw [fetched]
      exact (Except.ok.inj resolved).symm
    · rename_i reason fallen
      rw [fallen]
      exact (Except.ok.inj resolved).symm
  | true =>
    have page : hasNamelessPage ctx web value = true := (Bool.and_eq_true_iff.mp nameless).2
    rw [resolve_nameless nameless] at resolved
    rw [lookup_missing_iff.mpr ⟨page, rfl⟩]
    cases policy : ctx.policy with
    | abort => rw [policy] at resolved; cases resolved
    | fallback => rw [policy] at resolved; exact (Except.ok.inj resolved).symm

/-- Nothing but the lookup of an author asks for pages. -/
theorem requests_resolve (ctx : Context) (web : Web) (value : String) :
    Occurrence.requests (ctx.resolve web value).occurrences = requestsFor ctx web value := by
  by_cases nobody : value = noAuthor
  · subst nobody
    rfl
  rw [requestsFor, if_neg nobody]
  cases nameless : isNameless ctx web value with
  | false =>
    rw [resolve_named nobody nameless, Context.conclude]
    split
    · rfl
    · rfl
    · simp [Occurrence.requests, Occurrence.request?]
  | true =>
    rw [resolve_nameless nameless]
    cases ctx.policy <;> simp [Occurrence.requests, Occurrence.request?]

/-- The policy matters only where a name is missing. -/
theorem resolve_under (policy : MissingNamePolicy) (named : isNameless ctx web value = false) :
    (under ctx policy).resolve web value = ctx.resolve web value := by
  by_cases nobody : value = noAuthor
  · subst nobody
    rfl
  · have same : isNameless (under ctx policy) web value = false := named
    rw [resolve_named nobody named, resolve_named nobody same]
    rfl

theorem withSegment?_eq_none_iff {base : Url} :
    base.withSegment? identifier = none ↔ base.isOpaque = true := by
  unfold Url.withSegment? Url.isOpaque
  split <;> simp_all

/-- A page without a name was asked for, so the base takes segments. -/
theorem takesSegments_of_nameless (nameless : isNameless ctx web value = true) : ctx.base.isOpaque = false := by
  cases opens : ctx.base.isOpaque with
  | false => rfl
  | true => simp [isNameless, hasNamelessPage, withSegment?_eq_none_iff.mpr opens] at nameless

/-- Where the base takes segments, a lookup that is no outcome misses the name
of the very identifier it was made for. -/
theorem lookup_ok_or_missing (takesSegments : ctx.base.isOpaque = false) (web : Web) (identifier : String) :
    (∃ outcome, (ctx.lookup web identifier).result = .ok outcome) ∨
      (ctx.lookup web identifier).result = .error (.missingDisplayName identifier) := by
  rw [lookup_result]
  cases segment : ctx.base.withSegment? identifier with
  | none =>
    rw [withSegment?_eq_none_iff.mp segment] at takesSegments
    cases takesSegments
  | some url =>
    dsimp only
    generalize (web.fetch url).outcome = outcome
    cases outcome with
    | error fault => exact .inl ⟨_, rfl⟩
    | ok page =>
      dsimp only
      generalize Profile.displayName? (String.ofList page) = name
      cases name with
      | some name => exact .inl ⟨_, rfl⟩
      | none => exact .inr rfl

/-- A resolution that fails passes on the failure of its lookup. -/
theorem lookup_of_resolve_error (failed : (ctx.resolve web value).result = .error failure) :
    value ≠ noAuthor ∧ (ctx.lookup web value).result = .error failure := by
  by_cases nobody : value = noAuthor
  · subst nobody
    cases failed
  refine ⟨nobody, ?_⟩
  rw [resolve_author nobody, Context.applyPolicy] at failed
  split at failed
  · cases failed
  · rw [Context.conclude] at failed
    split at failed
    · rename_i passed
      cases failed
      exact passed
    · cases failed
    · cases failed

/-- Whatever the base is, a resolution misses a name exactly where the page
shows none and the policy is to end the run, and the name is the value's own. -/
theorem resolve_missing_iff :
    (ctx.resolve web value).result = .error (.missingDisplayName identifier) ↔
      isNameless ctx web value = true ∧ ctx.policy = .abort ∧ identifier = value := by
  constructor
  · intro failed
    obtain ⟨author, missing⟩ := lookup_of_resolve_error failed
    obtain ⟨page, own⟩ := lookup_missing_iff.mp missing
    have nameless : isNameless ctx web value = true := by simp [isNameless, author, page]
    refine ⟨nameless, ?_, own⟩
    rw [resolve_nameless nameless] at failed
    cases policy : ctx.policy with
    | abort => rfl
    | fallback => rw [policy] at failed; cases failed
  · rintro ⟨nameless, policy, rfl⟩
    rw [resolve_nameless nameless, policy]

/-- Where the base takes segments, a resolution fails in this way only. -/
theorem resolve_error_iff (takesSegments : ctx.base.isOpaque = false) :
    (ctx.resolve web value).result = .error failure ↔
      isNameless ctx web value = true ∧ ctx.policy = .abort ∧ failure = .missingDisplayName value := by
  constructor
  · intro failed
    have passed := (lookup_of_resolve_error failed).2
    rcases lookup_ok_or_missing takesSegments web value with ⟨outcome, found⟩ | missing
    · rw [found] at passed
      cases passed
    · rw [missing] at passed
      cases passed
      obtain ⟨nameless, policy, -⟩ := resolve_missing_iff.mp failed
      exact ⟨nameless, policy, rfl⟩
  · rintro ⟨nameless, policy, rfl⟩
    exact resolve_missing_iff.mpr ⟨nameless, policy, rfl⟩

/-- Where the base takes segments, a value with a name has a record, and every
value has one where the policy is to fall back. -/
theorem record_of_named (takesSegments : ctx.base.isOpaque = false)
    (spared : isNameless ctx web value = false ∨ ctx.policy = .fallback) :
    ∃ record, (ctx.resolve web value).result = .ok record := by
  cases result : (ctx.resolve web value).result with
  | ok record => exact ⟨record, rfl⟩
  | error failure =>
    obtain ⟨nameless, aborts, -⟩ := (resolve_error_iff takesSegments).mp result
    rw [nameless, aborts] at spared
    rcases spared with named | falls
    · cases named
    · cases falls

/-- An author of whom no page can be had has a record all the same, and it shows
the identifier. -/
theorem resolve_of_failed_fetch {url : Url} {fault : FetchFault} (author : value ≠ noAuthor)
    (segment : ctx.base.withSegment? value = some url) (failed : (web.fetch url).outcome = .error fault) :
    (ctx.resolve web value).result = .ok (ctx.recordOf value value) := by
  have named : isNameless ctx web value = false := by simp [isNameless, hasNamelessPage, segment, failed]
  have fallen := lookup_result ctx web value
  rw [segment] at fallen
  dsimp only at fallen
  rw [failed] at fallen
  rw [resolve_named author named, Context.conclude, fallen]

end AuthorNames.Resolution
