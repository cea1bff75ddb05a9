import AuthorNames.Proofs.SinkContents
import Mathlib.Data.List.Basic

/-! The account that a sink keeps of the lines it was asked to write. It holds
the first bytes of all of them, as many as its capacity; a line was flushed if
everything up to its end fits, so the number of a flush is the number of its
line; and a record counts if its line was flushed without a fault. Each record
that is handed over keeps the account, whatever became of those before it. -/
namespace AuthorNames.SinkLedger
open AuthorNames.SinkContents

/-- The bytes of a record's line. -/
def lineBytes (record : Record) : List UInt8 :=
  Text.Utf8.bytesOf (record.identifier ++ " = " ++ record.display ++ "\n")

/-- The number of bytes up to the end of the line of that number. -/
def reach (lines : List (List UInt8)) (number : Nat) : Nat :=
  (lines.take number).flatten.length

/-- Whether all bytes up to the end of the line of that number fit. -/
def fits (capacity : Option Nat) (lines : List (List UInt8)) (number : Nat) : Bool :=
  capacity.all fun most => reach lines number ≤ most

/-- Whether the line of that number is written and flushed without a fault. -/
def isWritten (capacity failingFlush : Option Nat) (lines : List (List UInt8)) (number : Nat) : Bool :=
  fits capacity lines number && failingFlush ≠ some number

/-- The first of the bytes, as many as fit. -/
def held (capacity : Option Nat) (bytes : List UInt8) : List UInt8 :=
  match capacity with
  | none => bytes
  | some most => bytes.take most

/-- The numbers of the lines, from one. -/
def numbers (lines : List (List UInt8)) : List Nat :=
  List.range' 1 lines.length

/-- What an output shows once it was asked to write lines. -/
structure Ledger (output : Output) (lines : List (List UInt8)) : Prop where
  content : output.sink.content.toList = held output.sink.capacity lines.flatten
  flushes : output.sink.flushes = (numbers lines).countP (fits output.sink.capacity lines)
  written : output.written =
    (numbers lines).countP (isWritten output.sink.capacity output.sink.failingFlush lines)

variable {capacity failingFlush : Option Nat} {lines : List (List UInt8)} {line : List UInt8} {number : Nat}

theorem lineBytes_eq (record : Record) : lineBytes record = Text.Utf8.bytesOf record.text ++ [10] := by
  have feed : String.utf8EncodeChar '\n' = [10] := rfl
  simp [lineBytes, Record.text, Text.Utf8.bytesOf, Text.Utf8.encode, feed]

theorem length_lineBytes (record : Record) : 0 < (lineBytes record).length := by
  simp [lineBytes_eq]

/-! ### Numbers of lines -/

theorem reach_mono (lines : List (List UInt8)) {first second : Nat} (order : first ≤ second) :
    reach lines first ≤ reach lines second := by
  have split := List.take_append_drop first (lines.take second)
  rw [List.take_take, Nat.min_eq_left order] at split
  have lengths := congrArg (List.length ∘ List.flatten) split
  simp only [Function.comp, List.flatten_append, List.length_append] at lengths
  rw [reach, reach]
  omega

theorem reach_append (within : number ≤ lines.length) (more : List (List UInt8)) :
    reach (lines ++ more) number = reach lines number := by
  rw [reach, List.take_append_of_le_length within, reach]

theorem fits_append (within : number ≤ lines.length) (more : List (List UInt8)) :
    fits capacity (lines ++ more) number = fits capacity lines number := by
  rw [fits, reach_append within, fits]

theorem isWritten_append (within : number ≤ lines.length) (more : List (List UInt8)) :
    isWritten capacity failingFlush (lines ++ more) number = isWritten capacity failingFlush lines number := by
  rw [isWritten, fits_append within, isWritten]

/-- A line that fits has those before it fit. -/
theorem fits_mono {first second : Nat} (order : first ≤ second) (later : fits capacity lines second = true) :
    fits capacity lines first = true := by
  have shorter := reach_mono lines order
  rw [fits] at later ⊢
  cases capacity with
  | none => rfl
  | some most =>
    simp only [Option.all_some, decide_eq_true_eq] at later ⊢
    omega

theorem mem_numbers : number ∈ numbers lines ↔ 0 < number ∧ number ≤ lines.length := by
  rw [numbers, List.mem_range'_1]
  omega

/-- One more line is one more number. -/
theorem countP_numbers_concat (counts : List (List UInt8) → Nat → Bool)
    (stable : ∀ number ≤ lines.length, counts (lines ++ [line]) number = counts lines number) :
    (numbers (lines ++ [line])).countP (counts (lines ++ [line])) =
      (numbers lines).countP (counts lines) +
        if counts (lines ++ [line]) (lines.length + 1) = true then 1 else 0 := by
  have same : (numbers lines).countP (counts (lines ++ [line])) = (numbers lines).countP (counts lines) := by
    apply List.countP_congr
    intro number member
    rw [stable number (mem_numbers.mp member).2]
  have further : numbers (lines ++ [line]) = numbers lines ++ [lines.length + 1] := by
    rw [numbers, List.length_append, List.length_singleton, List.range'_1_concat, Nat.add_comm 1, numbers]
  rw [further, List.countP_append, same, List.countP_singleton]

theorem countP_numbers_of_all {counts : Nat → Bool} (all : ∀ number ∈ numbers lines, counts number = true) :
    (numbers lines).countP counts = lines.length := by
  rw [List.countP_eq_length.mpr all, numbers, List.length_range']

/-! ### One record more -/

theorem flatten_concat (lines : List (List UInt8)) (line : List UInt8) :
    (lines ++ [line]).flatten = lines.flatten ++ line := by
  simp

theorem reach_concat (lines : List (List UInt8)) (line : List UInt8) :
    reach (lines ++ [line]) (lines.length + 1) = lines.flatten.length + line.length := by
  rw [reach, List.take_of_length_le (by simp), flatten_concat, List.length_append]

theorem held_append_of_fits (fit : fits capacity (lines ++ [line]) (lines.length + 1) = true) :
    held capacity (lines ++ [line]).flatten = held capacity lines.flatten ++ line := by
  rw [fits, reach_concat] at fit
  rw [flatten_concat]
  cases capacity with
  | none => rfl
  | some most =>
    simp only [Option.all_some, decide_eq_true_eq] at fit
    simp only [held]
    rw [List.take_of_length_le (by rw [List.length_append]; omega), List.take_of_length_le (by omega)]

/-- A sink that holds what it can of the lines has room for another if
everything up to its end fits; a full one has no room even for one byte. -/
theorem room_iff_fits {sink : Sink} (content : sink.content.toList = held sink.capacity lines.flatten)
    (positive : 0 < line.length) :
    sink.hasRoomFor line.length = fits sink.capacity (lines ++ [line]) (lines.length + 1) := by
  have size : sink.content.size = (held sink.capacity lines.flatten).length := by
    rw [← content, Array.length_toList]
  rw [Sink.hasRoomFor, fits, reach_concat]
  cases bounded : sink.capacity with
  | none => rfl
  | some most =>
    simp only [bounded, held, List.length_take] at size
    simp only [Option.all_some, decide_eq_decide]
    omega

theorem emit_roomy {output : Output} {record : Record}
    (room : output.sink.hasRoomFor (lineBytes record).length = true) :
    output.emit record =
      if output.sink.failingFlush = some (output.sink.flushes + 1) then
        (⟨flushed (taking output.sink (lineBytes record)), output.written⟩, some (.reported "flush failed"))
      else (⟨flushed (taking output.sink (lineBytes record)), output.written + 1⟩, none) := by
  rw [Output.emit, Sink.writeLine, ← lineBytes_eq, write_roomy room]
  by_cases failing : output.sink.failingFlush = some (output.sink.flushes + 1)
  · simp [Sink.flush, failing, flushed]
  · simp [Sink.flush, failing, flushed]

theorem emit_crowded {output : Output} {record : Record} {most : Nat} (bounded : output.sink.capacity = some most)
    (crowded : output.sink.hasRoomFor (lineBytes record).length = false) :
    output.emit record =
      (⟨taking output.sink ((lineBytes record).take (most - output.sink.content.size)), output.written⟩,
        some output.sink.overflow.fault) := by
  rw [Output.emit, Sink.writeLine, ← lineBytes_eq, write_crowded bounded crowded]

/-- What a record that is handed over leaves as it is. -/
theorem emit_bounds (output : Output) (record : Record) :
    (output.emit record).1.sink.capacity = output.sink.capacity ∧
      (output.emit record).1.sink.failingFlush = output.sink.failingFlush := by
  cases room : output.sink.hasRoomFor (lineBytes record).length with
  | true =>
    rw [emit_roomy room]
    split <;> simp
  | false =>
    obtain ⟨most, bounded, -⟩ := (crowded_iff output.sink _).mp room
    rw [emit_crowded bounded room]
    simp

/-- The counts grow with the line if it fits and, for the written ones, if its
flush does not fail. -/
theorem count_flushes_concat (lines : List (List UInt8)) (line : List UInt8) :
    (numbers (lines ++ [line])).countP (fits capacity (lines ++ [line])) =
      (numbers lines).countP (fits capacity lines) +
        if fits capacity (lines ++ [line]) (lines.length + 1) = true then 1 else 0 :=
  countP_numbers_concat (fits capacity) fun _ within => fits_append within _

theorem count_written_concat (lines : List (List UInt8)) (line : List UInt8) :
    (numbers (lines ++ [line])).countP (isWritten capacity failingFlush (lines ++ [line])) =
      (numbers lines).countP (isWritten capacity failingFlush lines) +
        if isWritten capacity failingFlush (lines ++ [line]) (lines.length + 1) = true then 1 else 0 :=
  countP_numbers_concat (isWritten capacity failingFlush) fun _ within => isWritten_append within _

/-- Where a line fits, each before it was flushed. -/
theorem flushes_of_fits {output : Output} (ledger : Ledger output lines)
    (fit : fits output.sink.capacity (lines ++ [line]) (lines.length + 1) = true) :
    output.sink.flushes = lines.length := by
  rw [ledger.flushes]
  apply countP_numbers_of_all
  intro number member
  have within := (mem_numbers.mp member).2
  rw [← fits_append within [line]]
  exact fits_mono (by omega) fit

/-- A record whose line does not fit brings the sink to its brim and is neither
flushed nor counted. -/
private theorem ledger_crowded {output : Output} {record : Record} (ledger : Ledger output lines)
    (crowded : output.sink.hasRoomFor (lineBytes record).length = false)
    (unfit : fits output.sink.capacity (lines ++ [lineBytes record]) (lines.length + 1) = false) :
    Ledger (output.emit record).1 (lines ++ [lineBytes record]) := by
  obtain ⟨most, bounded, exceeds⟩ := (crowded_iff output.sink _).mp crowded
  have unwritten : isWritten output.sink.capacity output.sink.failingFlush (lines ++ [lineBytes record])
      (lines.length + 1) = false := by rw [isWritten, unfit, Bool.false_and]
  have size := congrArg List.length ledger.content
  have content := ledger.content
  rw [emit_crowded bounded crowded]
  refine ⟨?_, ?_, ?_⟩
  · simp only [bounded, held, List.length_take, Array.length_toList] at size content
    simp only [content_taking, capacity_taking, bounded, held, flatten_concat]
    rw [content, size, List.take_append]
    congr 2
    omega
  · simp only [flushes_taking, capacity_taking, count_flushes_concat, unfit, ledger.flushes]
    rfl
  · simp only [capacity_taking, failingFlush_taking, count_written_concat, unwritten, ledger.written]
    rfl

/-- A record whose line fits is flushed, and counts unless the flush fails. -/
private theorem ledger_roomy {output : Output} {record : Record} (ledger : Ledger output lines)
    (room : output.sink.hasRoomFor (lineBytes record).length = true)
    (fit : fits output.sink.capacity (lines ++ [lineBytes record]) (lines.length + 1) = true) :
    Ledger (output.emit record).1 (lines ++ [lineBytes record]) := by
  have content : (flushed (taking output.sink (lineBytes record))).content.toList =
      held output.sink.capacity (lines ++ [lineBytes record]).flatten := by
    rw [content_flushed, content_taking, ledger.content, held_append_of_fits fit]
  have flushes : output.sink.flushes + 1 = (numbers (lines ++ [lineBytes record])).countP
      (fits output.sink.capacity (lines ++ [lineBytes record])) := by
    rw [count_flushes_concat, if_pos fit, ledger.flushes]
  have bounds : (flushed (taking output.sink (lineBytes record))).capacity = output.sink.capacity ∧
      (flushed (taking output.sink (lineBytes record))).failingFlush = output.sink.failingFlush := by
    simp
  rw [emit_roomy room, flushes_of_fits ledger fit]
  by_cases failing : output.sink.failingFlush = some (lines.length + 1)
  · have unwritten : isWritten output.sink.capacity output.sink.failingFlush (lines ++ [lineBytes record])
        (lines.length + 1) = false := by simp [isWritten, failing]
    rw [if_pos failing]
    refine ⟨?_, ?_, ?_⟩
    · simp only [bounds, content]
    · simp only [bounds, ← flushes, flushes_flushed, flushes_taking]
    · simp only [bounds, count_written_concat, unwritten, ledger.written]
      rfl
  · have success : isWritten output.sink.capacity output.sink.failingFlush (lines ++ [lineBytes record])
        (lines.length + 1) = true := by simp [isWritten, failing, fit]
    rw [if_neg failing]
    refine ⟨?_, ?_, ?_⟩
    · simp only [bounds, content]
    · simp only [bounds, ← flushes, flushes_flushed, flushes_taking]
    · simp only [bounds, count_written_concat, success, ledger.written, ↓reduceIte]

/-- **Handing over one record more keeps the account.** It is written if its line
fits and its flush, whose number is the line's, does not fail. -/
theorem emit_keeps_ledger {output : Output} (ledger : Ledger output lines) (record : Record) :
    Ledger (output.emit record).1 (lines ++ [lineBytes record]) ∧
      ((output.emit record).2 = none ↔
        isWritten output.sink.capacity output.sink.failingFlush (lines ++ [lineBytes record])
          (lines.length + 1) = true) := by
  have room := room_iff_fits ledger.content (length_lineBytes record)
  cases fit : fits output.sink.capacity (lines ++ [lineBytes record]) (lines.length + 1) with
  | false =>
    rw [fit] at room
    refine ⟨ledger_crowded ledger room fit, ?_⟩
    obtain ⟨most, bounded, -⟩ := (crowded_iff output.sink _).mp room
    rw [emit_crowded bounded room, isWritten, fit]
    simp
  | true =>
    rw [fit] at room
    refine ⟨ledger_roomy ledger room fit, ?_⟩
    rw [emit_roomy room, flushes_of_fits ledger fit, isWritten, fit]
    by_cases failing : output.sink.failingFlush = some (lines.length + 1)
    · simp [failing]
    · simp [failing]

/-- A sink that was asked for nothing keeps an empty account. -/
theorem ledger_new (capacity : Option Nat) (overflow : Overflow) (failingFlush : Option Nat) :
    Ledger (.new ⟨capacity, overflow, failingFlush, #[], 0⟩) [] := by
  refine ⟨?_, rfl, rfl⟩
  cases capacity <;> simp [Output.new, held]

end AuthorNames.SinkLedger
