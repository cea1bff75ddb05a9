import AuthorNames.CommandLine.Reader
import AuthorNames.Proofs.AcceptedSettings
import AuthorNames.Proofs.LossyDecoding
import Mathlib.Data.List.TakeWhile
import Mathlib.Tactic.SplitIfs

/-! How often a command line says to say more, and that it makes no other
difference. Reading the line without those switches comes to the same request,
though they make the reader look at the value in front of them earlier than it
would have; how often they stand there is counted up to 255. -/
namespace AuthorNames.Loudness
open AuthorNames.CommandLine AuthorNames.Text.Utf8 AuthorNames.AcceptedSettings AuthorNames.LossyDecoding

/-- How often an argument says to say more: the long switch does once, and a
hyphen with letters `v` behind it does once for each of them. -/
def loudnessOf : List UInt8 → Nat
  | [] => 0
  | first :: letters =>
    if first :: letters = bytesOf Switch.verbose.flag then 1
    else if first = byte '-' ∧ letters.all (· = byte 'v') then letters.length
    else 0

/-- How often a command line says to say more. -/
def loudness : List (List UInt8) → Nat
  | [] => 0
  | argument :: rest => loudnessOf argument + loudness rest

/-- The arguments that say anything but to say more. -/
def quiet (arguments : List (List UInt8)) : List (List UInt8) :=
  arguments.filter (loudnessOf · = 0)

/-- The request of a run that is not told to say more. -/
def hushed (r : Request) : Request :=
  { r with verbosity := 0 }

/-- What has been counted, that many times later. -/
def raised (verbosity : UInt8) (times : Nat) : UInt8 :=
  UInt8.ofNat (min (verbosity.toNat + times) 255)

/-- A request once an argument has said that many times to say more. -/
def Spoken (r : Request) (times : Nat) : CommandLine.Progress :=
  ⟨{ r with verbosity := raised r.verbosity times }, .none⟩

/-- The second of two readings goes along with the first: what the first has
made of the option at hand the second makes of it too, and a value that the
first waits for is one that the second waits for. -/
structure GoesAlong (p q : CommandLine.Progress) : Prop where
  resolves : ∀ r, p.resolve = .ok r → q.resolve = .ok (hushed r)
  awaits : ∀ option, p.pending = .awaiting option → q = ⟨hushed p.request, .awaiting option⟩

variable {p p' q : CommandLine.Progress} {r r' : Request} {option : ValueOption} {value argument : List UInt8}
  {arguments : List (List UInt8)}

/-! Counting. -/

theorem toNat_raised (verbosity : UInt8) (times : Nat) :
    (raised verbosity times).toNat = min (verbosity.toNat + times) 255 := by
  rw [raised, UInt8.toNat_ofNat', Nat.mod_eq_of_lt (by omega)]

theorem raised_zero (verbosity : UInt8) : raised verbosity 0 = verbosity := by
  apply UInt8.toNat_inj.mp
  have bound := verbosity.toNat_lt
  rw [toNat_raised]
  omega

theorem raised_raised (verbosity : UInt8) (times more : Nat) :
    raised (raised verbosity times) more = raised verbosity (times + more) := by
  apply UInt8.toNat_inj.mp
  rw [toNat_raised, toNat_raised, toNat_raised]
  omega

theorem raised_once (verbosity : UInt8) :
    (if verbosity = 255 then 255 else verbosity + 1) = raised verbosity 1 := by
  apply UInt8.toNat_inj.mp
  rw [toNat_raised]
  split
  · rename_i full
    rw [full]
    rfl
  · rename_i room
    have bound := verbosity.toNat_lt
    have short : verbosity.toNat ≠ 255 := fun full => room (UInt8.toNat_inj.mp full)
    have one : (1 : UInt8).toNat = 1 := rfl
    rw [UInt8.toNat_add, one, Nat.mod_eq_of_lt (by omega)]
    omega

/-! Requests. -/

/-- How much a run says has no part in what an option adds to its request. -/
theorem put_hushed (put : r.put option value = .ok r') :
    (hushed r).put option value = .ok (hushed r') ∧ r'.verbosity = r.verbosity := by
  unfold Request.put at put ⊢
  have has : (hushed r).has option = r.has option := by cases option <;> rfl
  rw [has]
  split at put
  · cases put
  · rename_i free
    rw [if_neg free]
    cases option with
    | baseUrl | domain =>
      obtain ⟨text, decoded, made⟩ := bind_ok put
      cases made
      refine ⟨?_, rfl⟩
      simp only [decoded]
      rfl
    | onMissingName =>
      obtain ⟨policy, named, made⟩ := bind_ok put
      cases made
      refine ⟨?_, rfl⟩
      simp only [named]
      rfl
    | timeout =>
      obtain ⟨text, decoded, made⟩ := bind_ok put
      simp only [decoded, bind, Except.bind]
      split at made
      · cases made
        exact ⟨rfl, rfl⟩
      · cases made
    | config =>
      dsimp only at put ⊢
      split at put
      · cases put
      · rename_i present
        cases put
        rw [if_neg present]
        exact ⟨rfl, rfl⟩

theorem verbosity_of_resolve (resolved : p.resolve = .ok r) : r.verbosity = p.request.verbosity := by
  unfold CommandLine.Progress.resolve at resolved
  split at resolved
  · cases resolved
    rfl
  · cases resolved
  · exact (put_hushed resolved).2

/-- Two readings that have read the same so far go along. -/
theorem goesAlong_same (request : Request) (pending : Pending) :
    GoesAlong ⟨request, pending⟩ ⟨hushed request, pending⟩ where
  resolves := by
    intro r resolved
    cases pending with
    | none =>
      cases resolved
      rfl
    | awaiting option => cases resolved
    | held option value => exact (put_hushed resolved).1
  awaits := by
    rintro option rfl
    rfl

/-! Arguments that say to say more. -/

theorem turnOn_verbose (p : CommandLine.Progress) (isLong : Bool) :
    p.turnOn .verbose isLong = p.resolve.map (Spoken · 1) := by
  rw [CommandLine.Progress.turnOn]
  cases p.resolve with
  | error stop => rfl
  | ok r =>
    rw [Except.map, Spoken, ← raised_once]
    rfl

/-- Letters `v` behind a hyphen turn the switch on one by one. -/
theorem readShort_verbose (more : Nat) (p : CommandLine.Progress) (bytes : List UInt8) :
    p.readShort (List.replicate (more + 1) (some 'v')) bytes = p.resolve.map (Spoken · (more + 1)) := by
  have letter : Switch.ofLetter? 'v' = some .verbose := rfl
  induction more generalizing p bytes with
  | zero =>
    rw [List.replicate_one, CommandLine.Progress.readShort, letter]
    dsimp only
    rw [turnOn_verbose]
    cases p.resolve <;> rfl
  | succ more ih =>
    rw [List.replicate_succ, CommandLine.Progress.readShort, letter]
    dsimp only
    rw [turnOn_verbose]
    cases p.resolve with
    | error stop => rfl
    | ok r =>
      have onward := ih (Spoken r 1) (bytes.drop 'v'.utf8Size)
      have resolved : (Spoken r 1).resolve = .ok { r with verbosity := raised r.verbosity 1 } := rfl
      rw [resolved] at onward
      refine onward.trans ?_
      simp only [Except.map, Spoken, raised_raised, Nat.add_comm 1]

private theorem parts_of_letters {letters : List UInt8} (all : letters.all (· = byte 'v') = true) :
    parts letters = List.replicate letters.length (some 'v') := by
  induction letters with
  | nil => rfl
  | cons first rest ih =>
    obtain ⟨same, others⟩ : first = byte 'v' ∧ rest.all (· = byte 'v') = true := by simpa using all
    subst same
    rw [List.length_cons, List.replicate_succ, ← ih others]
    rfl

/-- Such an argument has the option at hand looked at and is counted, and does
nothing else. -/
theorem read_loud (loud : 0 < loudnessOf argument) (p : CommandLine.Progress) :
    p.read argument = p.resolve.map (Spoken · (loudnessOf argument)) := by
  cases argument with
  | nil => cases loud
  | cons first letters =>
    by_cases long : first :: letters = bytesOf Switch.verbose.flag
    · have once : loudnessOf (first :: letters) = 1 := if_pos long
      rw [once, long]
      exact turnOn_verbose p true
    · by_cases short : first = byte '-' ∧ letters.all (· = byte 'v') = true
      · have times : loudnessOf (first :: letters) = letters.length := by
          rw [loudnessOf, if_neg long, if_pos short]
        rw [times] at loud ⊢
        obtain ⟨rfl, all⟩ := short
        cases letters with
        | nil => cases loud
        | cons second rest =>
          have second_v : second = byte 'v' := by simpa using (List.all_eq_true.mp all) second List.mem_cons_self
          subst second_v
          have read : p.read (byte '-' :: byte 'v' :: rest) =
              p.readShort (parts (byte 'v' :: rest)) (byte 'v' :: rest) := rfl
          rw [read, parts_of_letters all, List.length_cons, readShort_verbose]
      · rw [loudnessOf, if_neg long, if_neg short] at loud
        cases loud

/-! Arguments that say anything else. -/

/-- What has begun beyond ASCII is not read as letters `v`, whatever follows. -/
private theorem begun_is_other (begun : Text.Utf8.Progress) (inside : begun ≠ .fresh)
    (beyond : EndsBeyondAscii begun) (bytes : List UInt8) : ∃ part ∈ partsFrom begun bytes, part ≠ some 'v' := by
  induction bytes generalizing begun with
  | nil =>
    cases begun with
    | fresh => exact absurd rfl inside
    | within missing low high value => exact ⟨none, List.mem_singleton.mpr rfl, by simp⟩
  | cons first rest ih =>
    cases begun with
    | fresh => exact absurd rfl inside
    | within missing low high value =>
      have kept := (feed_keeps_feeds beyond first).1
      by_cases fits : low ≤ first ∧ first ≤ high
      · cases missing with
        | zero =>
          refine ⟨some (Char.ofNat (value * 64 + (first.toNat - 0x80))), ?_, ?_⟩
          · simp [partsFrom, feed, fits]
          · have above : low.toNat ≤ first.toNat := fits.1
            obtain ⟨-, least⟩ := beyond
            intro same
            refine char_ne_ascii ?_ (c := 'v') (by decide) (by decide) (Option.some.inj same)
            omega
        | succ missing =>
          simp only [feed, fits, and_self, ↓reduceIte] at kept
          obtain ⟨part, member, other⟩ := ih (.within missing _ _ _) (by simp) kept
          refine ⟨part, ?_, other⟩
          simpa [partsFrom, feed, fits] using member
      · refine ⟨none, ?_, by simp⟩
        simp [partsFrom, feed, fits]

/-- Only letters `v` are read as such. -/
private theorem letters_of_parts {bytes : List UInt8} (all : ∀ part ∈ parts bytes, part = some 'v') :
    bytes.all (· = byte 'v') = true := by
  induction bytes with
  | nil => rfl
  | cons first rest ih =>
    have read : parts (first :: rest) = (start first).1 ++ partsFrom (start first).2 rest := rfl
    rw [read] at all
    by_cases fresh : (start first).2 = .fresh
    · rw [fresh] at all
      have others := ih fun part member => all part (List.mem_append_right _ member)
      have small : first.toNat < 0x80 := by
        by_contra beyond
        -- The only other bytes behind which a character may begin are ill-formed.
        have broken : none ∈ (start first).1 := by
          unfold start at fresh ⊢
          dsimp only at fresh ⊢
          rw [if_neg beyond] at fresh ⊢
          split_ifs at fresh ⊢
          exact List.mem_singleton.mpr rfl
        exact absurd (all none (List.mem_append_left _ broken)) (by simp)
      have shown : (start first).1 = [some (Char.ofNat first.toNat)] := by
        simp only [start, small, ↓reduceIte]
      have isV := all _ (List.mem_append_left _ (shown ▸ List.mem_singleton.mpr rfl))
      have code := congrArg Char.toNat (Option.some.inj isV)
      rw [code_of_valid (.inl (by omega))] at code
      have same : first = byte 'v' := UInt8.toNat_inj.mp code
      rw [List.all_cons, others, same]
      rfl
    · obtain ⟨part, member, other⟩ := begun_is_other _ fresh (start_keeps_feeds first).1 rest
      exact absurd (all part (List.mem_append_right _ member)) other

/-- No switch behind a single hyphen lets the reading go on but `v`. -/
theorem readShort_ok {letters : List (Option Char)} {bytes : List UInt8}
    (read : p.readShort letters bytes = .ok p') : ∀ letter ∈ letters, letter = some 'v' := by
  induction letters generalizing p bytes with
  | nil => simp
  | cons letter rest ih =>
    cases letter with
    | none => cases read
    | some c =>
      rw [CommandLine.Progress.readShort] at read
      split at read
      · rename_i switch named
        obtain ⟨turned, on, onward⟩ := bind_ok read
        have isVerbose : switch = .verbose := by
          cases switch with
          | verbose => rfl
          | help | version =>
            obtain ⟨r, -, stopped⟩ := bind_ok on
            cases stopped
        have isV : c = 'v' := by
          subst isVerbose
          unfold Switch.ofLetter? at named
          split at named
          · rfl
          all_goals cases named
        intro letter member
        rcases List.mem_cons.mp member with rfl | member
        · rw [isV]
        · exact ih onward letter member
      · cases read

/-- An option of the long kind is looked at in the same way by a reading that
goes along. -/
theorem readLong_goesAlong (along : GoesAlong p q)
    (other : byte '-' :: byte '-' :: argument ≠ bytesOf Switch.verbose.flag) (read : p.readLong argument = .ok p') :
    ∃ q', q.readLong argument = .ok q' ∧ GoesAlong p' q' ∧ p'.request.verbosity = p.request.verbosity := by
  unfold CommandLine.Progress.readLong at read ⊢
  dsimp only at read ⊢
  split at read
  · rename_i option named
    obtain ⟨r, resolved, made⟩ := bind_ok read
    have counted := verbosity_of_resolve resolved
    rw [along.resolves r resolved]
    split at made
    · rename_i joined
      obtain ⟨r', put, made⟩ := bind_ok made
      cases made
      obtain ⟨putToo, kept⟩ := put_hushed put
      refine ⟨⟨hushed r', .none⟩, ?_, goesAlong_same r' .none, kept.trans counted⟩
      simp only [joined, putToo, ↓reduceIte, bind, Except.bind]
      rfl
    · rename_i apart
      cases made
      refine ⟨⟨hushed r, .awaiting option⟩, ?_, goesAlong_same r (.awaiting option), counted⟩
      simp only [apart, ↓reduceIte, bind, Except.bind]
      rfl
  · rename_i unnamed
    split at read
    · rename_i switch named
      split at read
      · cases read
      · rename_i apart
        cases switch with
        | help | version =>
          obtain ⟨r, -, stopped⟩ := bind_ok read
          cases stopped
        | verbose =>
          -- Without a value behind its name, it would be the switch itself.
          have isNamed := List.find?_some named
          have whole : argument.takeWhile (· ≠ byte '=') = argument := by
            rw [List.takeWhile_eq_self_iff, ← List.dropWhile_eq_nil_iff]
            have parted := congrArg List.length
              (List.takeWhile_append_dropWhile (p := (· ≠ byte '=')) (l := argument))
            rw [List.length_append] at parted
            exact List.length_eq_zero_iff.mp (by omega)
          rw [whole, decide_eq_true_eq] at isNamed
          exact absurd isNamed.symm other
    · cases read

/-- Any argument that does not say to say more. -/
theorem read_goesAlong (along : GoesAlong p q) (other : loudnessOf argument = 0)
    (read : p.read argument = .ok p') :
    ∃ q', q.read argument = .ok q' ∧ GoesAlong p' q' ∧ p'.request.verbosity = p.request.verbosity := by
  have asValue (read : p.readValue argument = .ok p') :
      ∃ q', q.readValue argument = .ok q' ∧ GoesAlong p' q' ∧ p'.request.verbosity = p.request.verbosity := by
    unfold CommandLine.Progress.readValue at read ⊢
    split at read
    · rename_i option waits
      cases read
      rw [along.awaits option waits]
      exact ⟨_, rfl, goesAlong_same p.request (.held option argument), rfl⟩
    · cases read
  cases argument with
  | nil => exact asValue read
  | cons first rest =>
    rw [CommandLine.Progress.read] at read ⊢
    split at read
    · rename_i isValue
      rw [if_pos isValue]
      exact asValue read
    · rename_i isOption
      rw [if_neg isOption]
      obtain ⟨rfl, -⟩ : first = byte '-' ∧ ¬ rest.isEmpty = true := by simpa using isOption
      split at read
      · rename_i isLong
        rw [if_pos isLong]
        cases rest with
        | nil => cases isLong
        | cons second rest =>
          cases isLong
          refine readLong_goesAlong along ?_ read
          intro long
          rw [loudnessOf] at other
          exact absurd (other.symm.trans (if_pos long)) (by decide)
      · rename_i isShort
        have all := letters_of_parts (readShort_ok read)
        have loud : loudnessOf (byte '-' :: rest) = rest.length := by
          have notLong : byte '-' :: rest ≠ bytesOf Switch.verbose.flag := by
            rintro same
            cases same
            exact isShort rfl
          rw [loudnessOf, if_neg notLong, if_pos ⟨rfl, all⟩]
        rw [loud] at other
        rw [List.length_eq_zero_iff.mp other] at isOption
        exact absurd (Or.inr rfl) isOption

/-- Over all arguments: what says to say more can be left out, and is counted. -/
theorem readAll_quiet (along : GoesAlong p q) (read : p.readAll arguments = .ok r) :
    q.readAll (quiet arguments) = .ok (hushed r) ∧
      r.verbosity = raised p.request.verbosity (loudness arguments) := by
  induction arguments generalizing p q with
  | nil =>
    refine ⟨along.resolves r read, ?_⟩
    rw [verbosity_of_resolve read]
    exact (raised_zero _).symm
  | cons argument rest ih =>
    rw [CommandLine.Progress.readAll.eq_def] at read
    dsimp only at read
    split at read
    · -- Two hyphens are the last argument, and are kept.
      rename_i isEnd
      subst isEnd
      cases rest with
      | cons extra rest => cases read
      | nil =>
        refine ⟨along.resolves r read, ?_⟩
        rw [verbosity_of_resolve read]
        exact (raised_zero _).symm
    · rename_i notEnd
      obtain ⟨p', first, onward⟩ := bind_ok read
      have total : loudness (argument :: rest) = loudnessOf argument + loudness rest := rfl
      by_cases other : loudnessOf argument = 0
      · have kept : quiet (argument :: rest) = argument :: quiet rest :=
          List.filter_cons_of_pos (decide_eq_true other)
        obtain ⟨q', firstToo, along, same⟩ := read_goesAlong along other first
        obtain ⟨onwardToo, counted⟩ := ih along onward
        rw [kept, total, other, Nat.zero_add, ← same]
        refine ⟨?_, counted⟩
        rw [CommandLine.Progress.readAll.eq_def]
        dsimp only
        rw [if_neg notEnd, firstToo]
        exact onwardToo
      · have dropped : quiet (argument :: rest) = quiet rest :=
          List.filter_cons_of_neg (by simpa using other)
        rw [read_loud (Nat.pos_of_ne_zero other)] at first
        cases resolved : p.resolve with
        | error stop =>
          rw [resolved] at first
          cases first
        | ok s =>
          rw [resolved] at first
          cases first
          have along : GoesAlong (Spoken s (loudnessOf argument)) q := by
            refine ⟨?_, fun option waits => by cases waits⟩
            rintro - ⟨⟩
            exact along.resolves s resolved
          obtain ⟨onwardToo, counted⟩ := ih along onward
          refine ⟨dropped ▸ onwardToo, ?_⟩
          rw [counted, total, ← raised_raised, ← verbosity_of_resolve resolved]
          rfl

/-- What a command line asks for without the arguments that only say to say
more, and how much more it says with them. -/
theorem parse_quiet (parsed : parse arguments = .ok r) :
    parse (quiet arguments) = .ok (hushed r) ∧ r.verbosity.toNat = min (loudness arguments) 255 := by
  obtain ⟨same, counted⟩ := readAll_quiet (goesAlong_same .empty .none) parsed
  refine ⟨same, ?_⟩
  rw [counted, toNat_raised]
  exact congrArg (min · 255) (Nat.zero_add _)

/-- Command lines that differ in those arguments alone ask for the same. -/
theorem hushed_of_quiet {others : List (List UInt8)} (parsed : parse arguments = .ok r)
    (parsedToo : parse others = .ok r') (same : quiet others = quiet arguments) : hushed r' = hushed r := by
  have first := (parse_quiet parsed).1
  have second := (parse_quiet parsedToo).1
  rw [same, first] at second
  exact (Except.ok.inj second).symm

end AuthorNames.Loudness
