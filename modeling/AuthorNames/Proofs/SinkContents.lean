import AuthorNames.Output.Writer

/-! What a sink holds after something was written to it. Bytes that fit are
taken whole and others up to the brim, and it makes no difference whether they
are offered all at once, in parts, or again and again until they are taken: so
a sink is the writer that it is used as. -/
namespace AuthorNames.SinkContents

/-- A sink that has taken more bytes. -/
def taking (s : Sink) (bytes : List UInt8) : Sink :=
  { s with content := s.content ++ bytes.toArray }

/-- A sink that was flushed once more. -/
def flushed (s : Sink) : Sink :=
  { s with flushes := s.flushes + 1 }

variable {s : Sink} {capacity : Nat} {bytes : List UInt8}

@[simp] theorem capacity_flushed : (flushed s).capacity = s.capacity := rfl

@[simp] theorem failingFlush_flushed : (flushed s).failingFlush = s.failingFlush := rfl

@[simp] theorem content_flushed : (flushed s).content = s.content := rfl

@[simp] theorem flushes_flushed : (flushed s).flushes = s.flushes + 1 := rfl

@[simp] theorem capacity_taking : (taking s bytes).capacity = s.capacity := rfl

@[simp] theorem failingFlush_taking : (taking s bytes).failingFlush = s.failingFlush := rfl

@[simp] theorem flushes_taking : (taking s bytes).flushes = s.flushes := rfl

@[simp] theorem content_taking : (taking s bytes).content.toList = s.content.toList ++ bytes := by
  simp [taking]

@[simp] theorem size_taking : (taking s bytes).content.size = s.content.size + bytes.length := by
  simp [taking]

@[simp] theorem taking_nil : taking s [] = s := by
  simp [taking]

@[simp] theorem taking_taking (first second : List UInt8) :
    taking (taking s first) second = taking s (first ++ second) := by
  simp [taking]

theorem hasRoomFor_taking (s : Sink) (bytes : List UInt8) (count : Nat) :
    (taking s bytes).hasRoomFor count = s.hasRoomFor (bytes.length + count) := by
  simp [Sink.hasRoomFor, Nat.add_assoc]

/-- Only a capacity leaves no room. -/
theorem crowded_iff (s : Sink) (count : Nat) :
    s.hasRoomFor count = false ↔ ∃ capacity, s.capacity = some capacity ∧ capacity < s.content.size + count := by
  rw [Sink.hasRoomFor]
  cases s.capacity <;> simp

theorem write_roomy (room : s.hasRoomFor bytes.length = true) : s.write bytes = (taking s bytes, none) := by
  rw [Sink.write, if_pos room]
  rfl

theorem write_crowded (bounded : s.capacity = some capacity) (crowded : s.hasRoomFor bytes.length = false) :
    s.write bytes = (taking s (bytes.take (capacity - s.content.size)), some s.overflow.fault) := by
  rw [Sink.write, if_neg (by simp [crowded])]
  simp [taking, bounded]

/-- Bytes written in two parts are written as one. -/
theorem write_append (s : Sink) (first second : List UInt8) :
    s.write (first ++ second) =
      match s.write first with
      | (s, some fault) => (s, some fault)
      | (s, none) => s.write second := by
  cases room : s.hasRoomFor first.length with
  | true =>
    rw [write_roomy room]
    have all := hasRoomFor_taking s first second.length
    rw [← List.length_append] at all
    dsimp only
    cases more : s.hasRoomFor (first ++ second).length with
    | true => rw [write_roomy more, write_roomy (all.trans more), taking_taking]
    | false =>
      obtain ⟨capacity, bounded, exceeds⟩ := (crowded_iff s _).mp more
      have fits : first.length ≤ capacity - s.content.size := by
        simp only [Sink.hasRoomFor, bounded, Option.all_some, decide_eq_true_eq] at room
        omega
      rw [write_crowded bounded more, write_crowded (s := taking s first) bounded (all.trans more), taking_taking,
        List.take_append, List.take_of_length_le fits, size_taking, Nat.sub_add_eq]
      rfl
  | false =>
    obtain ⟨capacity, bounded, exceeds⟩ := (crowded_iff s _).mp room
    have longer : s.hasRoomFor (first ++ second).length = false :=
      (crowded_iff s _).mpr ⟨capacity, bounded, by rw [List.length_append]; omega⟩
    have within : capacity - s.content.size ≤ first.length := by omega
    rw [write_crowded bounded room, write_crowded bounded longer, List.take_append_of_le_length within]

/-! ### A sink as a writer -/

theorem fitting_roomy (room : s.hasRoomFor bytes.length = true) : s.fitting bytes = bytes := by
  rw [Sink.fitting]
  cases bounded : s.capacity with
  | none => rfl
  | some capacity =>
    simp only [Sink.hasRoomFor, bounded, Option.all_some, decide_eq_true_eq] at room
    exact List.take_of_length_le (by omega)

theorem fitting_bounded (bounded : s.capacity = some capacity) :
    s.fitting bytes = bytes.take (capacity - s.content.size) := by
  rw [Sink.fitting, bounded]

theorem offer_fitting {taken : List UInt8} (fitting : s.fitting bytes = taken) (offered : taken ≠ []) :
    s.offer bytes = (taking s taken, .ok taken.length) := by
  rw [Sink.offer, fitting]
  simp [offered, taking]

theorem writeAll_nil {σ : Type} (w : Writer σ) (state : σ) : w.writeAll state [] = (state, none) := by
  rw [Writer.writeAll]

/-- What fits of an offer is taken, and the others are offered again. -/
theorem writeAll_fitting {taken rest : List UInt8} (fitting : s.fitting (taken ++ rest) = taken)
    (offered : taken ≠ []) :
    Sink.writer.writeAll s (taken ++ rest) = Sink.writer.writeAll (taking s taken) rest := by
  have answer := offer_fitting fitting offered
  obtain ⟨byte, more, rfl⟩ := List.exists_cons_of_ne_nil offered
  rw [List.cons_append] at answer ⊢
  rw [Writer.writeAll]
  simp only [Sink.writer, answer, List.length_cons]
  rw [List.drop_left]

/-- A full sink takes nothing of an offer. -/
theorem writeAll_full (bounded : s.capacity = some capacity) (full : capacity ≤ s.content.size)
    (offered : bytes ≠ []) : Sink.writer.writeAll s bytes = (s, some s.overflow.fault) := by
  obtain ⟨byte, rest, rfl⟩ := List.exists_cons_of_ne_nil offered
  have refused : Sink.writer.offer s (byte :: rest) = (s, s.refusal) := by
    simp [Sink.writer, Sink.offer, Sink.fitting, bounded, Nat.sub_eq_zero_of_le full]
  rw [Writer.writeAll, refused, Sink.refusal]
  cases s.overflow <;> rfl

/-- Offering bytes until they are taken is writing them: those that do not fit
are offered to a full sink. -/
theorem writeAll_sink (s : Sink) (offered : bytes ≠ []) : Sink.writer.writeAll s bytes = s.write bytes := by
  cases room : s.hasRoomFor bytes.length with
  | true =>
    have whole : s.fitting (bytes ++ []) = bytes := by rw [List.append_nil, fitting_roomy room]
    have taken := writeAll_fitting whole offered
    rw [List.append_nil, writeAll_nil] at taken
    rw [taken, write_roomy room]
  | false =>
    obtain ⟨capacity, bounded, exceeds⟩ := (crowded_iff s _).mp room
    rw [write_crowded bounded room]
    by_cases full : capacity ≤ s.content.size
    · rw [writeAll_full bounded full offered, Nat.sub_eq_zero_of_le full, List.take_zero, taking_nil]
    · have parts := List.take_append_drop (capacity - s.content.size) bytes
      have front : bytes.take (capacity - s.content.size) ≠ [] := by
        rw [← List.length_pos_iff, List.length_take]
        omega
      have back : bytes.drop (capacity - s.content.size) ≠ [] := by
        rw [← List.length_pos_iff, List.length_drop]
        omega
      have brim : capacity ≤ (taking s (bytes.take (capacity - s.content.size))).content.size := by
        rw [size_taking, List.length_take]
        omega
      have taken := writeAll_fitting ((congrArg s.fitting parts).trans (fitting_bounded bounded)) front
      rw [parts, writeAll_full (s := taking s _) bounded brim back] at taken
      exact taken

/-- A line is written to a sink as to any writer. -/
theorem writeLine_sink (s : Sink) (line : String) : Sink.writer.writeLine s line = s.writeLine line := by
  have feed (after : Sink) : Sink.writer.writeAll after [10] = after.write [10] :=
    writeAll_sink after (List.cons_ne_nil _ _)
  rw [Writer.writeLine, Sink.writeLine]
  by_cases empty : Text.Utf8.bytesOf line = []
  · rw [empty, writeAll_nil, List.nil_append]
    dsimp only
    rw [feed]
    cases s.write [10] with
    | mk after fault => cases fault <;> rfl
  · rw [write_append, writeAll_sink s empty]
    cases s.write (Text.Utf8.bytesOf line) with
    | mk after fault =>
      cases fault with
      | some fault => rfl
      | none =>
        dsimp only
        rw [feed]
        cases after.write [10] with
        | mk after fault => cases fault <;> rfl

/-- A record is written to a sink as to any writer. -/
theorem emit_sink (output : Output) (record : Record) :
    Sink.writer.emit ⟨output.sink, output.written⟩ record =
      (⟨(output.emit record).1.sink, (output.emit record).1.written⟩, (output.emit record).2) := by
  rw [Writer.emit, Output.emit, writeLine_sink]
  cases output.sink.writeLine record.text with
  | mk after fault => cases fault <;> rfl

end AuthorNames.SinkContents
