import AuthorNames.Context

/-! What is known of settings that were accepted. Each setting has passed its
own check, and whatever comes later may rely on it: above all, a base URL that
was accepted takes segments. -/
namespace AuthorNames.AcceptedSettings

theorem bind_ok {ε α β : Type} {first : Except ε α} {next : α → Except ε β} {result : β}
    (made : first >>= next = .ok result) : ∃ value, first = .ok value ∧ next value = .ok result := by
  cases first with
  | error failure => cases made
  | ok value => exact ⟨value, rfl, made⟩

variable {files : Files} {request : CommandLine.Request} {settings : Settings} {ctx : Context}

/-- Every setting of a context is what its own check makes of the settings. -/
theorem fields_of_settings (made : Context.ofSettings settings = .ok ctx) :
    settings.base = .ok ctx.base ∧ settings.timeout = .ok ctx.timeout ∧
      settings.domain = .ok ctx.domain ∧ settings.policy = ctx.policy := by
  unfold Context.ofSettings at made
  obtain ⟨base, baseMade, made⟩ := bind_ok made
  obtain ⟨timeout, timeoutMade, made⟩ := bind_ok made
  obtain ⟨domain, domainMade, made⟩ := bind_ok made
  cases made
  exact ⟨baseMade, timeoutMade, domainMade, rfl⟩

/-- Settings that are found come to what they are with those of the command line on top. -/
theorem ofRequest_of_found {found : Settings} (loaded : Settings.find files request.config = .ok found) :
    Context.ofRequest files request = Context.ofSettings (Context.overlay found request) := by
  rw [Settings.find] at loaded
  simp only [Context.ofRequest, Context.bootstrap, loaded, bind, Except.bind]

theorem ofRequest_of_missing {failure : Failure} (failed : Settings.find files request.config = .error failure) :
    Context.ofRequest files request = .error failure := by
  rw [Settings.find] at failed
  simp only [Context.ofRequest, Context.bootstrap, failed, bind, Except.bind]

/-- A request that is accepted leaves settings that are. -/
theorem settings_of_request (made : Context.ofRequest files request = .ok ctx) :
    ∃ found, Settings.find files request.config = .ok found ∧
      Context.ofSettings (Context.overlay found request) = .ok ctx :=
  bind_ok made

/-- A base URL that was accepted was read from a text, and takes segments. -/
theorem base_accepted {base : Url} (accepted : settings.base = .ok base) :
    (∃ source, Url.parse source = .ok base) ∧ base.isOpaque = false := by
  unfold Settings.base at accepted
  dsimp only at accepted
  split at accepted
  · cases accepted
  · rename_i url read
    split at accepted
    · cases accepted
    · rename_i opens
      cases accepted
      exact ⟨⟨_, read⟩, by simpa using opens⟩

theorem context_base_accepted (accepted : Context.ofRequest files request = .ok ctx) :
    (∃ source, Url.parse source = .ok ctx.base) ∧ ctx.base.isOpaque = false := by
  obtain ⟨found, -, made⟩ := settings_of_request accepted
  exact base_accepted (fields_of_settings made).1

theorem context_takesSegments (accepted : Context.ofRequest files request = .ok ctx) :
    ctx.base.isOpaque = false :=
  (context_base_accepted accepted).2

end AuthorNames.AcceptedSettings
