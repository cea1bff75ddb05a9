import AuthorNames.CommandLine.Reader
import AuthorNames.Json.Grammar
import AuthorNames.Proofs.EncodedText
import AuthorNames.Proofs.GivenOnce
import AuthorNames.Proofs.Loudness
import AuthorNames.Proofs.SettingsText

/-! Settings passed on a command line are asked for by its request, in whatever
order they stand and whether a value is part of its argument or the next one.
A value of the second kind is looked at late, so what is followed through the
arguments is the request once the option at hand has been looked at. -/
namespace AuthorNames.ValueFlags
open AuthorNames.CommandLine AuthorNames.Text.Utf8 AuthorNames.EncodedText AuthorNames.GivenOnce
open AuthorNames.Json.Grammar AuthorNames.Loudness
open AuthorNames.SettingsText (policyName)

/-- An option and the bytes of its value. -/
abbrev Passed := ValueOption × List UInt8

/-- A switch that only makes a run say more, as often as it likes. -/
inductive Louder : List UInt8 → Prop where
  | long : Louder (bytesOf Switch.verbose.flag)
  | short (more : Nat) : Louder (encode ('-' :: 'v' :: List.replicate more 'v'))

/-- The arguments that pass these options in this order. A value is part of the
argument that names its option, or it is the next one if it cannot be taken for
an option. -/
inductive Arguments : List Passed → List (List UInt8) → Prop where
  | none : Arguments [] []
  | joined {option : ValueOption} {value : List UInt8} {options : List Passed} {rest : List (List UInt8)}
      (others : Arguments options rest) :
      Arguments ((option, value) :: options) ((bytesOf option.flag ++ byte '=' :: value) :: rest)
  | apart {option : ValueOption} {value : List UInt8} {options : List Passed} {rest : List (List UInt8)}
      (free : value.head? = some (byte '-') → value = [byte '-']) (others : Arguments options rest) :
      Arguments ((option, value) :: options) (bytesOf option.flag :: value :: rest)
  | louder {argument : List UInt8} {options : List Passed} {rest : List (List UInt8)}
      (louder : Louder argument) (others : Arguments options rest) : Arguments options (argument :: rest)

/-- The bytes of a text. -/
def TextBy (text : String) (value : List UInt8) : Prop :=
  value = bytesOf text

/-- The bytes of a policy. -/
def PolicyBy (policy : MissingNamePolicy) (value : List UInt8) : Prop :=
  value = bytesOf (policyName policy)

/-- A path, which is never empty. -/
def PathBy (path value : List UInt8) : Prop :=
  value = path ∧ path ≠ []

/-- The bytes of a number of 64 bits, zeros in front of it or not. -/
def SecondsBy (seconds : UInt64) (value : List UInt8) : Prop :=
  ∃ digits, Digits digits ∧ Nat.ofDigitChars 10 digits 0 = seconds.toNat ∧ value = encode digits

/-- Options that pass these settings and this path of a settings file. -/
structure Passing (s : Settings) (config : Option (List UInt8)) (options : List Passed) : Prop where
  baseUrl : Gives TextBy s.baseUrl (valuesOf .baseUrl options)
  domain : Gives TextBy s.addressDomain (valuesOf .domain options)
  onMissingName : Gives PolicyBy s.onMissingName (valuesOf .onMissingName options)
  timeout : Gives SecondsBy s.timeoutSecs (valuesOf .timeout options)
  config : Gives PathBy config (valuesOf .config options)

/-! Values. -/

theorem textOf_encode (text : List Char) : textOf (encode text) = .ok text := by
  rw [textOf, decode?_encode]

theorem policyOf_name (policy : MissingNamePolicy) :
    policyOf (bytesOf (policyName policy)) = .ok policy := by
  have named : (bytesOf (policyName policy)).isEmpty = false := by cases policy <;> decide
  rw [policyOf, named, display_bytesOf]
  cases policy <;> rfl

/-- What one more digit makes of a number of 64 bits. -/
def addDigit (n : Nat) (c : Char) : Except NumberFault Nat :=
  if !c.isDigit then .error .badDigit
  else if UInt64.size ≤ n * 10 then .error .tooLarge
  else if UInt64.size ≤ n * 10 + (c.toNat - 48) then .error .tooLarge
  else .ok (n * 10 + (c.toNat - 48))

theorem foldlM_addDigit {digits : List Char} (formed : ∀ c ∈ digits, c.isDigit = true) {n : Nat}
    (fits : Nat.ofDigitChars 10 digits n < UInt64.size) :
    digits.foldlM addDigit n = .ok (Nat.ofDigitChars 10 digits n) := by
  induction digits generalizing n with
  | nil => rfl
  | cons d digits ih =>
    obtain ⟨digit, formed⟩ := List.forall_mem_cons.mp formed
    have step : Nat.ofDigitChars 10 (d :: digits) n =
        Nat.ofDigitChars 10 digits (n * 10 + (d.toNat - 48)) := by
      rw [Nat.ofDigitChars_cons, Nat.mul_comm 10]
      rfl
    rw [step] at fits ⊢
    have grows := le_ofDigitChars (n * 10 + (d.toNat - 48)) digits
    have added : addDigit n d = .ok (n * 10 + (d.toNat - 48)) := by
      rw [addDigit, digit, if_neg (by decide), if_neg (by omega), if_neg (by omega)]
    rw [List.foldlM_cons, added]
    exact ih formed fits

/-- Digits are read as the number they write. -/
theorem wholeNumber_digits {digits : List Char} (formed : Digits digits) {seconds : UInt64}
    (same : Nat.ofDigitChars 10 digits 0 = seconds.toNat) : wholeNumber digits = .ok seconds := by
  have read : digits.foldlM addDigit 0 = .ok seconds.toNat := by
    rw [foldlM_addDigit formed.2 (by rw [same]; exact seconds.toNat_lt), same]
  obtain ⟨nonempty, formed⟩ := formed
  cases digits with
  | nil => exact absurd rfl nonempty
  | cons d digits =>
    have unsigned : d ≠ '+' := by
      rintro rfl
      exact absurd (formed '+' (List.mem_cons_self ..)) (by decide)
    unfold wholeNumber
    split
    case h_1 same => exact absurd (List.cons.inj same).1 unsigned
    change (List.foldlM addDigit 0 (d :: digits)).map UInt64.ofNat = _
    rw [read, Except.map, UInt64.ofNat_toNat]

/-! Requests. -/

/-- What the options still to come make of a request. -/
structure Completing (r r' : Request) (options : List Passed) : Prop where
  baseUrl : Completes TextBy r.baseUrl (valuesOf .baseUrl options) r'.baseUrl
  domain : Completes TextBy r.domain (valuesOf .domain options) r'.domain
  onMissingName : Completes PolicyBy r.onMissingName (valuesOf .onMissingName options) r'.onMissingName
  timeout : Completes SecondsBy r.timeout (valuesOf .timeout options) r'.timeout
  config : Completes PathBy r.config (valuesOf .config options) r'.config

variable {r r' : Request} {options : List Passed} {option : ValueOption} {value : List UInt8}

theorem completing_nil (completing : Completing r r' []) : r = { r' with verbosity := r.verbosity } := by
  obtain ⟨base, domain, policy, timeout, config, verbosity⟩ := r
  obtain ⟨base', domain', policy', timeout', config', verbosity'⟩ := r'
  cases completes_nil completing.baseUrl
  cases completes_nil completing.domain
  cases completes_nil completing.onMissingName
  cases completes_nil completing.timeout
  cases completes_nil completing.config
  rfl

/-- How much a run says has no part in whether options complete a request. -/
theorem completing_louder (completing : Completing r r' options) (verbosity : UInt8) :
    Completing { r with verbosity } r' options :=
  ⟨completing.baseUrl, completing.domain, completing.onMissingName, completing.timeout, completing.config⟩

/-! What an option adds that has no value yet. -/

theorem put_baseUrl (fresh : r.has .baseUrl = false) (text : String) :
    r.put .baseUrl (bytesOf text) = .ok { r with baseUrl := some text } := by
  simp only [Request.put, fresh, bytesOf, textOf_encode, bind, Except.bind, String.ofList_toList]
  rfl

theorem put_domain (fresh : r.has .domain = false) (text : String) :
    r.put .domain (bytesOf text) = .ok { r with domain := some text } := by
  simp only [Request.put, fresh, bytesOf, textOf_encode, bind, Except.bind, String.ofList_toList]
  rfl

theorem put_onMissingName (fresh : r.has .onMissingName = false) (policy : MissingNamePolicy) :
    r.put .onMissingName (bytesOf (policyName policy)) = .ok { r with onMissingName := some policy } := by
  simp only [Request.put, fresh, policyOf_name, bind, Except.bind]
  rfl

theorem put_timeout (fresh : r.has .timeout = false) {seconds : UInt64} (written : SecondsBy seconds value) :
    r.put .timeout value = .ok { r with timeout := some seconds } := by
  obtain ⟨digits, formed, same, rfl⟩ := written
  simp only [Request.put, fresh, textOf_encode, wholeNumber_digits formed same, bind, Except.bind]
  rfl

theorem put_config (fresh : r.has .config = false) (nonempty : value ≠ []) :
    r.put .config value = .ok { r with config := some value } := by
  have present : value.isEmpty = false := List.isEmpty_eq_false_iff.mpr nonempty
  simp only [Request.put, fresh, present]
  rfl

/-- One option: what it adds leaves the rest to the others. -/
theorem put_passed (completing : Completing r r' ((option, value) :: options)) :
    ∃ r₁, Completing r₁ r' options ∧ r.put option value = .ok r₁ := by
  obtain ⟨base, domain, policy, timeout, config⟩ := completing
  cases option with
  | baseUrl =>
    rw [valuesOf_cons_same] at base
    rw [valuesOf_cons_other (by decide)] at domain policy timeout config
    obtain ⟨fresh, text, rfl, left⟩ := completes_cons base
    have missing : r.has .baseUrl = false := by rw [Request.has, fresh]; rfl
    exact ⟨{ r with baseUrl := some text }, ⟨left, domain, policy, timeout, config⟩, put_baseUrl missing text⟩
  | domain =>
    rw [valuesOf_cons_same] at domain
    rw [valuesOf_cons_other (by decide)] at base policy timeout config
    obtain ⟨fresh, text, rfl, left⟩ := completes_cons domain
    have missing : r.has .domain = false := by rw [Request.has, fresh]; rfl
    exact ⟨{ r with domain := some text }, ⟨base, left, policy, timeout, config⟩, put_domain missing text⟩
  | onMissingName =>
    rw [valuesOf_cons_same] at policy
    rw [valuesOf_cons_other (by decide)] at base domain timeout config
    obtain ⟨fresh, named, rfl, left⟩ := completes_cons policy
    have missing : r.has .onMissingName = false := by rw [Request.has, fresh]; rfl
    exact ⟨{ r with onMissingName := some named }, ⟨base, domain, left, timeout, config⟩,
      put_onMissingName missing named⟩
  | timeout =>
    rw [valuesOf_cons_same] at timeout
    rw [valuesOf_cons_other (by decide)] at base domain policy config
    obtain ⟨fresh, seconds, written, left⟩ := completes_cons timeout
    have missing : r.has .timeout = false := by rw [Request.has, fresh]; rfl
    exact ⟨{ r with timeout := some seconds }, ⟨base, domain, policy, left, config⟩, put_timeout missing written⟩
  | config =>
    rw [valuesOf_cons_same] at config
    rw [valuesOf_cons_other (by decide)] at base domain policy timeout
    obtain ⟨fresh, path, ⟨rfl, nonempty⟩, left⟩ := completes_cons config
    have missing : r.has .config = false := by rw [Request.has, fresh]; rfl
    exact ⟨{ r with config := some value }, ⟨base, domain, policy, timeout, left⟩, put_config missing nonempty⟩

/-! Arguments. -/

/-- The name of an option behind its hyphens. -/
def nameOf (option : ValueOption) : List UInt8 :=
  (bytesOf option.flag).drop 2

theorem bytesOf_flag (option : ValueOption) :
    bytesOf option.flag = byte '-' :: byte '-' :: nameOf option := by
  cases option <;> rfl

theorem find_option (option : ValueOption) : ValueOption.all.find? (fun other =>
    decide (bytesOf other.flag = byte '-' :: byte '-' :: nameOf option)) = some option := by
  cases option <;> decide

theorem nameOf_noEquals (option : ValueOption) : ∀ b ∈ nameOf option, decide (b ≠ byte '=') = true := by
  rw [← List.all_eq_true]
  cases option <;> decide

theorem nameOf_ne_nil (option : ValueOption) : nameOf option ≠ [] := by
  cases option <;> decide

/-- An option that is recognised has the option at hand looked at first. -/
theorem readLong_joined (p : CommandLine.Progress) (option : ValueOption) (value : List UInt8) :
    p.readLong (nameOf option ++ byte '=' :: value) =
      p.resolve.bind fun r => (r.put option value).map (⟨·, .none⟩) := by
  have name : (nameOf option ++ byte '=' :: value).takeWhile (fun b => decide (b ≠ byte '=')) =
      nameOf option := by
    rw [List.takeWhile_append_of_pos (nameOf_noEquals option)]
    simp
  have rest : (nameOf option ++ byte '=' :: value).dropWhile (fun b => decide (b ≠ byte '=')) =
      byte '=' :: value := by
    rw [List.dropWhile_append_of_pos (nameOf_noEquals option)]
    simp
  have hasValue : (nameOf option).length < (nameOf option ++ byte '=' :: value).length := by simp
  simp only [CommandLine.Progress.readLong, name, rest, find_option, hasValue, List.drop_one,
    List.tail_cons, bind, ↓reduceIte]
  refine congrArg p.resolve.bind (funext fun r => ?_)
  cases r.put option value <;> rfl

theorem readLong_apart (p : CommandLine.Progress) (option : ValueOption) :
    p.readLong (nameOf option) = p.resolve.map (⟨·, .awaiting option⟩) := by
  have name : (nameOf option).takeWhile (fun b => decide (b ≠ byte '=')) = nameOf option := by
    have whole := @List.takeWhile_append_of_pos _ _ _ [] (nameOf_noEquals option)
    simpa only [List.append_nil, List.takeWhile_nil] using whole
  simp only [CommandLine.Progress.readLong, name, find_option, Nat.lt_irrefl, bind, ↓reduceIte]
  cases p.resolve <;> rfl

/-- What cannot be taken for an option is the value that an option waits for. -/
theorem read_value (free : value.head? = some (byte '-') → value = [byte '-']) :
    CommandLine.Progress.read ⟨r, .awaiting option⟩ value = .ok ⟨r, .held option value⟩ := by
  cases value with
  | nil => rfl
  | cons first rest =>
    have isValue : first ≠ byte '-' ∨ rest.isEmpty = true := by
      by_cases hyphen : first = byte '-'
      · cases free (by rw [hyphen]; rfl)
        exact .inr rfl
      · exact .inl hyphen
    rw [CommandLine.Progress.read, if_pos isValue]
    rfl

theorem readAll_cons {argument : List UInt8} (other : argument ≠ [byte '-', byte '-'])
    (p : CommandLine.Progress) (rest : List (List UInt8)) :
    p.readAll (argument :: rest) = (p.read argument).bind (·.readAll rest) := by
  simp only [CommandLine.Progress.readAll, if_neg other]
  rfl

/-- A hyphen with letters `v` behind it says so once for each of them. -/
theorem loudnessOf_short (more : Nat) :
    loudnessOf (encode ('-' :: 'v' :: List.replicate more 'v')) = more + 1 := by
  have letters (n : Nat) : encode (List.replicate n 'v') = List.replicate n (byte 'v') := by
    induction n with
    | zero => rfl
    | succ n ih => exact congrArg (byte 'v' :: ·) ih
  have shape : encode ('-' :: 'v' :: List.replicate more 'v') =
      byte '-' :: List.replicate (more + 1) (byte 'v') := congrArg (byte '-' :: byte 'v' :: ·) (letters more)
  have other : byte '-' :: List.replicate (more + 1) (byte 'v') ≠ bytesOf Switch.verbose.flag := by
    intro same
    have second := congrArg (fun bytes => bytes[1]?) same
    exact absurd second (by
      change some (byte 'v') ≠ some (byte '-')
      decide)
  rw [shape, loudnessOf, if_neg other, if_pos ⟨rfl, by simp⟩, List.length_replicate]

/-- Such a switch says at least once to say more. -/
theorem loud_of_louder {argument : List UInt8} (louder : Louder argument) : 0 < loudnessOf argument := by
  cases louder with
  | long => decide
  | short more =>
    rw [loudnessOf_short]
    exact Nat.succ_pos more

theorem louder_noEnd {argument : List UInt8} (louder : Louder argument) :
    argument ≠ [byte '-', byte '-'] := by
  cases louder with
  | long => decide
  | short more =>
    intro same
    have second := congrArg (fun bytes => bytes[1]?) same
    exact absurd second (by
      change some (byte 'v') ≠ some (byte '-')
      decide)

theorem flag_noEnd (option : ValueOption) (more : List UInt8) :
    bytesOf option.flag ++ more ≠ [byte '-', byte '-'] := by
  simp [bytesOf_flag, nameOf_ne_nil option]

/-! Each has the option at hand looked at, and then the reading goes on with what it adds. A value that
is an argument of its own is at hand from then on. -/

theorem readAll_joined (p : CommandLine.Progress) (option : ValueOption) (value : List UInt8)
    (rest : List (List UInt8)) :
    p.readAll ((bytesOf option.flag ++ byte '=' :: value) :: rest) =
      p.resolve.bind fun r => (r.put option value).bind fun r' => CommandLine.Progress.readAll ⟨r', .none⟩ rest := by
  have read : p.read (bytesOf option.flag ++ byte '=' :: value) = p.readLong (nameOf option ++ byte '=' :: value) := by
    rw [bytesOf_flag]
    rfl
  rw [readAll_cons (flag_noEnd option _), read, readLong_joined]
  cases p.resolve with
  | error stop => rfl
  | ok r =>
    rw [Except.bind, Except.bind]
    cases r.put option value <;> rfl

theorem readAll_apart (p : CommandLine.Progress) (option : ValueOption)
    (free : value.head? = some (byte '-') → value = [byte '-']) (rest : List (List UInt8)) :
    p.readAll (bytesOf option.flag :: value :: rest) =
      p.resolve.bind fun r => CommandLine.Progress.readAll ⟨r, .held option value⟩ rest := by
  have read : p.read (bytesOf option.flag) = p.readLong (nameOf option) := by
    rw [bytesOf_flag]
    rfl
  have flag : bytesOf option.flag ≠ [byte '-', byte '-'] := by simpa using flag_noEnd option []
  have noEnd : value ≠ [byte '-', byte '-'] := by
    rintro rfl
    exact absurd (free rfl) (by decide)
  rw [readAll_cons flag, read, readLong_apart]
  cases p.resolve with
  | error stop => rfl
  | ok r =>
    rw [Except.map, Except.bind, readAll_cons noEnd, read_value free]
    rfl

theorem readAll_louder {argument : List UInt8} (louder : Louder argument) (p : CommandLine.Progress)
    (rest : List (List UInt8)) :
    p.readAll (argument :: rest) = p.resolve.bind fun r => (Spoken r (loudnessOf argument)).readAll rest := by
  rw [readAll_cons (louder_noEnd louder), read_loud (loud_of_louder louder)]
  cases p.resolve <;> rfl

/-- Every argument leaves what it adds to the request once the option at hand
has been looked at; in the end nothing is at hand. -/
theorem readAll_arguments {arguments : List (List UInt8)} (passed : Arguments options arguments)
    (completing : Completing r r' options) {p : CommandLine.Progress} (resolved : p.resolve = .ok r) :
    ∃ verbosity, p.readAll arguments = .ok { r' with verbosity } := by
  induction passed generalizing r p with
  | none =>
    have ended : p.readAll [] = p.resolve := rfl
    exact ⟨r.verbosity, by rw [ended, resolved, completing_nil completing]⟩
  | joined _ ih =>
    obtain ⟨r₁, completing, put⟩ := put_passed completing
    rw [readAll_joined, resolved, Except.bind, put]
    exact ih completing rfl
  | apart free _ ih =>
    obtain ⟨r₁, completing, put⟩ := put_passed completing
    rw [readAll_apart p _ free, resolved]
    exact ih completing put
  | louder louder _ ih =>
    rw [readAll_louder louder, resolved]
    exact ih (completing_louder completing _) rfl

/-- The options of a command line are what its request asks for, in whatever
order they stand. -/
theorem parse_arguments {s : Settings} {config : Option (List UInt8)} (passing : Passing s config options)
    {arguments : List (List UInt8)} (passed : Arguments options arguments) :
    ∃ verbosity, parse arguments =
      .ok ⟨s.baseUrl, s.addressDomain, s.onMissingName, s.timeoutSecs, config, verbosity⟩ := by
  have completing : Completing .empty
      ⟨s.baseUrl, s.addressDomain, s.onMissingName, s.timeoutSecs, config, 0⟩ options :=
    ⟨passing.baseUrl, passing.domain, passing.onMissingName, passing.timeout, passing.config⟩
  exact readAll_arguments passed completing rfl

end AuthorNames.ValueFlags
