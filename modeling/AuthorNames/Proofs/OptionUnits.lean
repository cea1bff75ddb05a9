import AuthorNames.Proofs.ValueFlags

/-! A command line is read back as what was written on it, whatever the order:
each option with its value, in one argument or in two, and the switches that
only make a run say more. An option that is written once more is refused, again
whatever the order, though a value of its own argument is looked at only once
the next option has been recognised. -/
namespace AuthorNames.OptionUnits
open AuthorNames.CommandLine AuthorNames.Text.Utf8 AuthorNames.EncodedText AuthorNames.GivenOnce
open AuthorNames.Loudness AuthorNames.ValueFlags
open AuthorNames.AcceptedSettings (bind_ok)

/-- What may be written on a command line: an option with its value, in one argument or in two, or a
switch that only makes the run say more, by its name or by letters `v`. -/
inductive OptionUnit where
  | joined (option : ValueOption) (value : List UInt8)
  | apart (option : ValueOption) (value : List UInt8) (free : value.head? ≠ some (byte '-'))
  | long
  | short (more : Nat)

namespace OptionUnit

/-- The arguments that write a unit. -/
def arguments : OptionUnit → List (List UInt8)
  | joined option value => [bytesOf option.flag ++ byte '=' :: value]
  | apart option value _ => [bytesOf option.flag, value]
  | long => [bytesOf Switch.verbose.flag]
  | short more => [encode ('-' :: 'v' :: List.replicate more 'v')]

/-- The option that a unit passes. -/
def passed? : OptionUnit → Option Passed
  | joined option value => some (option, value)
  | apart option value _ => some (option, value)
  | long => none
  | short _ => none

/-- How often a unit says to say more. -/
def flags : OptionUnit → Nat
  | joined _ _ => 0
  | apart _ _ _ => 0
  | long => 1
  | short more => more + 1

end OptionUnit

/-- The command line that is written in these units. -/
def commandLine (units : List OptionUnit) : List (List UInt8) :=
  units.flatMap OptionUnit.arguments

/-- The options that units pass, in their order. -/
def passes (units : List OptionUnit) : List Passed :=
  units.filterMap OptionUnit.passed?

/-- How often units say to say more. -/
def flagCount : List OptionUnit → Nat
  | [] => 0
  | unit :: units => unit.flags + flagCount units

/-- A value that the option can take. -/
def IsValid : ValueOption → List UInt8 → Prop
  | .baseUrl, value => ∃ text, TextBy text value
  | .domain, value => ∃ text, TextBy text value
  | .onMissingName, value => ∃ policy, PolicyBy policy value
  | .timeout, value => ∃ seconds, SecondsBy seconds value
  | .config, value => value ≠ []

variable {p : CommandLine.Progress} {r : Request} {option : ValueOption} {value : List UInt8}
  {options : List Passed} {arguments : List (List UInt8)} {stop : Stop}

/-! ### Counting -/

theorem loudnessOf_flag (option : ValueOption) : loudnessOf (bytesOf option.flag) = 0 := by
  cases option <;> decide

theorem loudnessOf_joined (option : ValueOption) (value : List UInt8) :
    loudnessOf (bytesOf option.flag ++ byte '=' :: value) = 0 := by
  have named : bytesOf option.flag ++ byte '=' :: value ≠ bytesOf Switch.verbose.flag := by
    intro same
    have equals : byte '=' ∈ bytesOf Switch.verbose.flag := same ▸ by simp
    exact absurd equals (by decide)
  rw [bytesOf_flag, List.cons_append, List.cons_append] at named ⊢
  rw [loudnessOf, if_neg named, if_neg]
  rintro ⟨-, letters⟩
  exact absurd (List.all_eq_true.mp letters (byte '-') List.mem_cons_self) (by decide)

theorem loudnessOf_free (free : value.head? ≠ some (byte '-')) : loudnessOf value = 0 := by
  cases value with
  | nil => rfl
  | cons first rest =>
    have other : first ≠ byte '-' := fun same => free (congrArg some same)
    have named : first :: rest ≠ bytesOf Switch.verbose.flag := fun same => other (List.cons.inj same).1
    rw [loudnessOf, if_neg named, if_neg fun short => other short.1]

theorem loudness_append (front back : List (List UInt8)) :
    loudness (front ++ back) = loudness front + loudness back := by
  induction front with
  | nil => exact (Nat.zero_add _).symm
  | cons argument front ih => rw [List.cons_append, loudness, loudness, ih, Nat.add_assoc]

theorem loudness_arguments (unit : OptionUnit) : loudness unit.arguments = unit.flags := by
  cases unit with
  | joined option value => simp [OptionUnit.arguments, OptionUnit.flags, loudness, loudnessOf_joined]
  | apart option value free =>
    simp [OptionUnit.arguments, OptionUnit.flags, loudness, loudnessOf_flag, loudnessOf_free free]
  | long => decide
  | short more => simp [OptionUnit.arguments, OptionUnit.flags, loudness, loudnessOf_short]

theorem loudness_commandLine (units : List OptionUnit) : loudness (commandLine units) = flagCount units := by
  induction units with
  | nil => rfl
  | cons unit units ih =>
    rw [commandLine] at ih ⊢
    rw [List.flatMap_cons, loudness_append, loudness_arguments, ih]
    rfl

/-! ### Options once each -/

theorem arguments_commandLine (units : List OptionUnit) : Arguments (passes units) (commandLine units) := by
  induction units with
  | nil => exact .none
  | cons unit units ih =>
    cases unit with
    | joined option value => exact .joined ih
    | apart option value free => exact .apart (fun hyphen => absurd hyphen free) ih
    | long => exact .louder .long ih
    | short more => exact .louder (.short more) ih

/-! ### An option more than once -/

/-- How often an option is given, by the request and by what is still to come. -/
def timesGiven (r : Request) (options : List Passed) (option : ValueOption) : Nat :=
  (r.has option).toNat + (valuesOf option options).length

theorem has_of_put {r' : Request} (put : r.put option value = .ok r') (other : ValueOption) :
    r'.has other = (r.has other || decide (other = option)) := by
  unfold Request.put at put
  split at put
  · cases put
  · cases option with
    | baseUrl | domain | onMissingName =>
      obtain ⟨read, -, made⟩ := bind_ok put
      cases made
      cases other <;> simp [Request.has]
    | timeout =>
      obtain ⟨text, -, made⟩ := bind_ok put
      split at made
      · cases made
        cases other <;> simp [Request.has]
      · cases made
    | config =>
      dsimp only at put
      split at put
      · cases put
      · cases put
        cases other <;> simp [Request.has]

/-- A valid value is taken for an option that has none yet. -/
theorem put_valid (valid : IsValid option value) (fresh : r.has option = false) :
    ∃ r', r.put option value = .ok r' := by
  cases option with
  | baseUrl =>
    obtain ⟨text, rfl⟩ := valid
    exact ⟨_, put_baseUrl fresh text⟩
  | domain =>
    obtain ⟨text, rfl⟩ := valid
    exact ⟨_, put_domain fresh text⟩
  | onMissingName =>
    obtain ⟨policy, rfl⟩ := valid
    exact ⟨_, put_onMissingName fresh policy⟩
  | timeout =>
    obtain ⟨seconds, written⟩ := valid
    exact ⟨_, put_timeout fresh written⟩
  | config => exact ⟨_, put_config fresh valid⟩

/-- An option with a valid value is the second of its kind, or it is counted with those that are given. -/
theorem put_counted (valid : IsValid option value) (options : List Passed) :
    2 ≤ timesGiven r ((option, value) :: options) option ∧ r.put option value = .error (.fault (.repeated option)) ∨
      ∃ r', r.put option value = .ok r' ∧
        ∀ other, timesGiven r' options other = timesGiven r ((option, value) :: options) other := by
  cases given : r.has option with
  | true =>
    refine .inl ⟨?_, if_pos given⟩
    rw [timesGiven, given, valuesOf_cons_same, List.length_cons, Bool.toNat_true]
    omega
  | false =>
    obtain ⟨r', put⟩ := put_valid valid given
    refine .inr ⟨r', put, fun other => ?_⟩
    rw [timesGiven, timesGiven, has_of_put put]
    by_cases same : other = option
    · subst same
      rw [given, valuesOf_cons_same]
      simp [Nat.add_comm]
    · rw [valuesOf_cons_other (Ne.symm same)]
      simp [same]

/-- A fault of the option at hand is found whatever comes next. -/
theorem readAll_stopped (passed : Arguments options arguments) (stopped : p.resolve = .error stop) :
    p.readAll arguments = .error stop := by
  cases passed with
  | none => exact stopped
  | joined =>
    rw [readAll_joined, stopped]
    rfl
  | apart free =>
    rw [readAll_apart p _ free, stopped]
    rfl
  | louder louder =>
    rw [readAll_louder louder, stopped]
    rfl

/-- With every value valid, an option that is given twice stops the reading. -/
theorem readAll_repeated (passed : Arguments options arguments)
    (valid : ∀ entry ∈ options, IsValid entry.1 entry.2) (resolved : p.resolve = .ok r)
    (twice : 2 ≤ timesGiven r options option) :
    ∃ other, 2 ≤ timesGiven r options other ∧ p.readAll arguments = .error (.fault (.repeated other)) := by
  -- What is kept is how often each option is given, once the option at hand has been looked at.
  induction passed generalizing r p with
  | none =>
    have once : timesGiven r [] option ≤ 1 := Bool.toNat_le (r.has option)
    omega
  | @joined added value options rest _ ih =>
    obtain ⟨first, others⟩ := List.forall_mem_cons.mp valid
    rw [readAll_joined, resolved, Except.bind]
    obtain ⟨again, refused⟩ | ⟨r', put, counted⟩ := put_counted first options
    · exact ⟨added, again, by rw [refused]; rfl⟩
    · rw [put]
      simp only [← counted] at twice ⊢
      exact ih others rfl twice
  | @apart added value options rest free passed ih =>
    obtain ⟨first, others⟩ := List.forall_mem_cons.mp valid
    rw [readAll_apart p _ free, resolved, Except.bind]
    -- The value is only at hand now, so its fault is found at the next argument or at the end.
    obtain ⟨again, refused⟩ | ⟨r', put, counted⟩ := put_counted first options
    · exact ⟨added, again, readAll_stopped passed refused⟩
    · simp only [← counted] at twice ⊢
      exact ih others put twice
  | @louder argument _ _ louder _ ih =>
    rw [readAll_louder louder, resolved]
    exact ih (r := { r with verbosity := raised r.verbosity (loudnessOf argument) }) valid rfl twice

/-! ### The command line -/

/-- **What is written on a command line is read back, in any order.** Options that are each written once,
in one argument or in two, come back with their values, and the switches among them are counted, up to
255. If any is written once more, though each of its values is valid, it is refused. -/
theorem commandLine_reads_back (units : List OptionUnit) :
    (∀ s config, Passing s config (passes units) →
      parse (commandLine units) = .ok ⟨s.baseUrl, s.addressDomain, s.onMissingName, s.timeoutSecs, config,
        UInt8.ofNat (min (flagCount units) 255)⟩) ∧
    ((∀ entry ∈ passes units, IsValid entry.1 entry.2) →
      ∀ option, 2 ≤ (valuesOf option (passes units)).length →
        ∃ other, 2 ≤ (valuesOf other (passes units)).length ∧
          parse (commandLine units) = .error (.fault (.repeated other))) := by
  have passed := arguments_commandLine units
  refine ⟨fun s config passing => ?_, fun valid option twice => ?_⟩
  · obtain ⟨verbosity, parsed⟩ := parse_arguments passing passed
    obtain ⟨-, counted⟩ := parse_quiet parsed
    rw [loudness_commandLine] at counted
    have same : verbosity = UInt8.ofNat (min (flagCount units) 255) := by
      rw [← counted]
      exact UInt8.ofNat_toNat.symm
    rw [parsed, same]
  · have counted (other : ValueOption) :
        timesGiven .empty (passes units) other = (valuesOf other (passes units)).length := by
      cases other <;> exact Nat.zero_add _
    simp only [← counted] at twice ⊢
    exact readAll_repeated passed valid rfl twice

/-- The greatest timeout, a URL that begins with a hyphen, an empty domain, and 301 switches. -/
def mixedUnits : List OptionUnit :=
  [.short 299, .apart .timeout (encode "18446744073709551615".toList) (by decide),
    .joined .baseUrl (bytesOf "-a=b c"), .long, .apart .domain [] (by decide)]

theorem mixedUnits_read_back :
    parse (commandLine mixedUnits) = .ok ⟨some "-a=b c", some "", none, some 18446744073709551615, none, 255⟩ ∧
      parse (commandLine (.joined .domain (bytesOf "d") :: mixedUnits)) = .error (.fault (.repeated .domain)) := by
  have seconds : SecondsBy 18446744073709551615 (encode "18446744073709551615".toList) :=
    ⟨_, ⟨by decide, List.all_eq_true.mp (by decide)⟩, by decide, rfl⟩
  have passing : Passing ⟨some "-a=b c", some "", none, some 18446744073709551615⟩ none (passes mixedUnits) :=
    ⟨⟨_, rfl, rfl⟩, ⟨_, rfl, rfl⟩, rfl, ⟨_, seconds, rfl⟩, rfl⟩
  refine ⟨(commandLine_reads_back mixedUnits).1 _ _ passing, ?_⟩
  have valid : ∀ entry ∈ passes (.joined .domain (bytesOf "d") :: mixedUnits), IsValid entry.1 entry.2 :=
    List.forall_mem_cons.mpr ⟨⟨"d", rfl⟩, List.forall_mem_cons.mpr ⟨⟨_, seconds⟩,
      List.forall_mem_cons.mpr ⟨⟨"-a=b c", rfl⟩, List.forall_mem_singleton.mpr ⟨"", rfl⟩⟩⟩⟩
  obtain ⟨other, twice, refused⟩ := (commandLine_reads_back _).2 valid .domain (by decide)
  cases other with
  | domain => exact refused
  | baseUrl | onMissingName | timeout | config => exact absurd twice (by decide)

end AuthorNames.OptionUnits
