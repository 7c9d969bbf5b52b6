import ExactFactorial.Channel.Sink

namespace ExactFactorial
namespace Channel

/-!
# What a sink accepts

A sink that is within its capacity accepts a write as a whole, or as much of it as leaves the sink
full.  Both cases are stated on the bytes accepted in all, because that is what the capacity
bounds.  A text may be written in any number of pieces: stopping at the first piece that fails
leaves the sink just as one write of the whole text does, so nothing here depends on how a text was
put together.
-/

/-- Whether so many bytes fit in all. -/
def SinkRules.HasRoom (rules : SinkRules) (length : Nat) : Prop :=
  ∀ capacity, rules.capacity = some capacity → length ≤ capacity

theorem SinkRules.exists_capacity_of_not_hasRoom {rules : SinkRules} {length : Nat}
    (crowded : ¬ rules.HasRoom length) :
    ∃ capacity, rules.capacity = some capacity ∧ capacity < length := by
  cases limited : rules.capacity with
  | none =>
      refine False.elim (crowded fun capacity set => ?_)
      rw [limited] at set
      cases set
  | some capacity =>
      refine ⟨capacity, rfl, Nat.lt_of_not_le fun bound => crowded fun other set => ?_⟩
      rw [limited] at set
      cases set
      exact bound

/-- A sink with these rules has room for everything, and no flush of it fails. -/
structure SinkRules.Reliable (rules : SinkRules) : Prop where
  unlimited : rules.capacity = none
  flushing : rules.failingFlush = none

theorem SinkRules.Reliable.hasRoom {rules : SinkRules} (reliable : rules.Reliable) (length : Nat) :
    rules.HasRoom length := by
  intro capacity limited
  rw [reliable.unlimited] at limited
  cases limited

theorem SinkRules.Reliable.failingFlush_ne {rules : SinkRules} (reliable : rules.Reliable)
    (flush : Nat) : rules.failingFlush ≠ some flush := by
  intro failing
  rw [reliable.flushing] at failing
  cases failing

/-- A sink with these rules interrupts the writes beyond its capacity. -/
structure SinkRules.Stalling (rules : SinkRules) : Prop where
  limited : rules.capacity ≠ none
  interrupting : rules.fault.kind = .interrupted

theorem SinkRules.Reliable.not_stalling {rules : SinkRules} (reliable : rules.Reliable) :
    ¬ rules.Stalling :=
  fun stalling => stalling.limited reliable.unlimited

/-- What stops a write that does not fit.  It is the fault of the sink as it stands, with two
exceptions.  A sink that gives no reason leaves the words to its writer, and a sink that interrupts
is written to without end. -/
inductive SinkRules.Overflows (rules : SinkRules) : Obstacle → Prop
  | returned (explained : rules.fault.kind ≠ .writeZero)
      (uninterrupted : rules.fault.kind ≠ .interrupted) : Overflows rules (.fault rules.fault)
  | unexplained (kind : rules.fault.kind = .writeZero) :
      Overflows rules (.fault ⟨.writeZero, "failed to write whole buffer"⟩)
  | stalled (kind : rules.fault.kind = .interrupted) : Overflows rules .stall

theorem SinkRules.overflows_overflow (rules : SinkRules) : rules.Overflows rules.overflow := by
  rw [overflow]
  cases kind : rules.fault.kind with
  | interrupted => exact .stalled kind
  | writeZero => exact .unexplained kind
  | named name =>
      have explained : rules.fault.kind ≠ .writeZero := by simp [kind]
      have uninterrupted : rules.fault.kind ≠ .interrupted := by simp [kind]
      exact .returned explained uninterrupted

theorem SinkRules.overflow_eq_stall_iff (rules : SinkRules) :
    rules.overflow = .stall ↔ rules.fault.kind = .interrupted := by
  rw [overflow]
  cases rules.fault.kind <;> simp

namespace Sink

/-! ## One write -/

theorem admitted_begins (sink : Sink) (bytes : Bytes) : sink.admitted bytes <+: bytes := by
  unfold admitted
  split
  · exact List.prefix_rfl
  · exact List.take_prefix _ _

theorem write_of_fits (sink : Sink) (bytes : Bytes) (fitting : sink.fits bytes = true) :
    sink.write bytes = (.ok (), { sink with accepted := sink.accepted ++ bytes }) := by
  have sameLength : (sink.admitted bytes).length = bytes.length := beq_iff_eq.mp fitting
  have whole : sink.admitted bytes = bytes :=
    (sink.admitted_begins bytes).eq_of_length sameLength
  rw [write, if_pos fitting, whole]

theorem fits_of_room (sink : Sink) (bytes : Bytes)
    (room : sink.rules.HasRoom (sink.accepted.length + bytes.length)) :
    sink.fits bytes = true := by
  have whole : sink.admitted bytes = bytes := by
    unfold admitted
    split
    · rfl
    · rename_i capacity limited
      have bound := room capacity limited
      exact List.take_of_length_le (by omega)
  rw [fits, whole, beq_self_eq_true]

theorem write_of_overflow (sink : Sink) (bytes : Bytes) {capacity : Nat}
    (limited : sink.rules.capacity = some capacity) (within : sink.accepted.length ≤ capacity)
    (beyond : capacity < sink.accepted.length + bytes.length) :
    sink.write bytes =
      (.error sink.rules.overflow,
        { sink with accepted := (sink.accepted ++ bytes).take capacity }) := by
  have part : sink.admitted bytes = bytes.take (capacity - sink.accepted.length) := by
    simp only [admitted, limited]
  have tooShort : ¬ sink.fits bytes = true := by
    rw [fits, part, beq_iff_eq, List.length_take]
    omega
  have full : (sink.accepted ++ bytes).take capacity =
      sink.accepted ++ bytes.take (capacity - sink.accepted.length) := by
    rw [List.take_append, List.take_of_length_le within]
  rw [write, if_neg tooShort, part, full]

/-- A write fails if it does not fit, unless it stalls. -/
theorem write_fails_iff (sink : Sink) (bytes : Bytes) :
    (∃ fault, (sink.write bytes).1 = .error (.fault fault)) ↔
      sink.fits bytes = false ∧ sink.rules.fault.kind ≠ .interrupted := by
  by_cases fitting : sink.fits bytes = true
  · simp [write, fitting]
  · rw [write, if_neg fitting, Ne, ← sink.rules.overflow_eq_stall_iff]
    cases sink.rules.overflow <;> simp [fitting]

theorem stalling_of_write {sink next : Sink} {bytes : Bytes}
    (stalled : sink.write bytes = (.error .stall, next)) : sink.rules.Stalling := by
  have unfitting : ¬ sink.fits bytes = true := by
    intro fitting
    rw [write_of_fits sink bytes fitting] at stalled
    cases stalled
  refine ⟨fun unlimited => unfitting ?_, ?_⟩
  · rw [fits, admitted, unlimited, beq_self_eq_true]
  · rw [write, if_neg unfitting] at stalled
    exact sink.rules.overflow_eq_stall_iff.mp (Except.error.inj (Prod.mk.inj stalled).1)

/-! ## Writing in pieces -/

/-- Write pieces in order, up to the first one that fails. -/
def writePieces (sink : Sink) : List Bytes → Except Obstacle Unit × Sink
  | [] => (.ok (), sink)
  | piece :: later =>
      match sink.write piece with
      | (.ok (), next) => next.writePieces later
      | failed => failed

/-- A first part that fits leaves the rest of the write to be admitted after it. -/
theorem admitted_append (sink : Sink) (first second : Bytes) (fitting : sink.fits first = true) :
    sink.admitted (first ++ second) =
      first ++ { sink with accepted := sink.accepted ++ first }.admitted second := by
  unfold fits at fitting
  unfold admitted at *
  cases limited : sink.rules.capacity with
  | none => rfl
  | some capacity =>
      simp only [limited, beq_iff_eq, List.length_take] at fitting
      have whole : first.take (capacity - sink.accepted.length) = first :=
        List.take_of_length_le (by omega)
      dsimp only
      rw [List.take_append, whole, List.length_append, Nat.sub_sub]

/-- A first part that does not fit leaves no room for more. -/
theorem admitted_append_of_not_fits (sink : Sink) (first second : Bytes)
    (overflowing : ¬ sink.fits first = true) :
    sink.admitted (first ++ second) = sink.admitted first := by
  unfold fits at overflowing
  unfold admitted at *
  cases limited : sink.rules.capacity with
  | none =>
      simp only [limited, beq_self_eq_true, not_true] at overflowing
  | some capacity =>
      simp only [limited, beq_iff_eq, List.length_take] at overflowing
      have nothingLeft : capacity - sink.accepted.length - first.length = 0 := by omega
      dsimp only
      rw [List.take_append, nothingLeft, List.take_zero, List.append_nil]

/-- Two writes in a row, the second one only if the first succeeds, are one write. -/
theorem write_append (sink : Sink) (first second : Bytes) :
    sink.write (first ++ second) =
      match sink.write first with
      | (.ok (), next) => next.write second
      | failed => failed := by
  by_cases fitting : sink.fits first = true
  · have later : sink.fits (first ++ second) =
        { sink with accepted := sink.accepted ++ first }.fits second := by
      rw [fits, fits, admitted_append sink first second fitting, List.length_append,
        List.length_append, Bool.eq_iff_iff, beq_iff_eq, beq_iff_eq, Nat.add_left_cancel_iff]
    rw [write_of_fits sink first fitting]
    simp only [write, later, admitted_append sink first second fitting, List.append_assoc]
  · have stillFull := admitted_append_of_not_fits sink first second fitting
    have bothOverflow : ¬ sink.fits (first ++ second) = true := by
      rw [fits, beq_iff_eq] at fitting
      rw [fits, stillFull, beq_iff_eq, List.length_append]
      have bound := (sink.admitted_begins first).length_le
      omega
    have failed : sink.write first =
        (.error sink.rules.overflow,
          { sink with accepted := sink.accepted ++ sink.admitted first }) := by
      rw [write, if_neg fitting]
    rw [failed, write, if_neg bothOverflow, stillFull]

theorem write_nil (sink : Sink) : sink.write [] = (.ok (), sink) := by
  have nothing : sink.admitted [] = [] := List.prefix_nil.mp (sink.admitted_begins [])
  have fitting : sink.fits [] = true := by
    rw [fits, nothing, beq_self_eq_true]
  rw [write_of_fits sink [] fitting, List.append_nil]

/-- However a text is cut into pieces, writing them one at a time is writing the text. -/
theorem writePieces_eq_write (sink : Sink) (pieces : List Bytes) :
    sink.writePieces pieces = sink.write pieces.flatten := by
  induction pieces generalizing sink with
  | nil => exact sink.write_nil.symm
  | cons piece later inductionHypothesis =>
      rw [List.flatten_cons, write_append, writePieces]
      cases sink.write piece with
      | mk result next =>
          cases result with
          | error obstacle => rfl
          | ok done => exact inductionHypothesis next

/-! ## A write with its flush -/

theorem put_of_overflow (sink : Sink) (bytes : Bytes) {capacity : Nat}
    (limited : sink.rules.capacity = some capacity) (within : sink.accepted.length ≤ capacity)
    (beyond : capacity < sink.accepted.length + bytes.length) :
    sink.put bytes =
      (.error sink.rules.overflow,
        { sink with accepted := (sink.accepted ++ bytes).take capacity }) := by
  rw [put, write_of_overflow sink bytes limited within beyond]

/-- A text for which there is room is accepted and flushed, and only the flush can fail. -/
theorem put_of_room (sink : Sink) (bytes : Bytes)
    (room : sink.rules.HasRoom (sink.accepted.length + bytes.length)) :
    sink.put bytes =
      (if sink.rules.failingFlush = some (sink.flushes.length + 1) then
          .error (.fault sink.rules.fault)
        else .ok (),
        { sink with
          accepted := sink.accepted ++ bytes
          flushes := sink.flushes ++ [sink.accepted.length + bytes.length] }) := by
  rw [put, write_of_fits sink bytes (fits_of_room sink bytes room)]
  simp only [flush, List.length_append, List.length_singleton]

/-- A flush does not stall. -/
theorem stalling_of_put {sink next : Sink} {bytes : Bytes}
    (stalled : sink.put bytes = (.error .stall, next)) : sink.rules.Stalling := by
  rw [put] at stalled
  cases written : sink.write bytes with
  | mk result after =>
      rw [written] at stalled
      cases result with
      | ok done =>
          simp only [flush] at stalled
          split at stalled <;> cases stalled
      | error obstacle =>
          cases stalled
          exact stalling_of_write written

theorem put_rules (sink : Sink) (bytes : Bytes) : (sink.put bytes).2.rules = sink.rules := by
  rw [put]
  by_cases fitting : sink.fits bytes = true
  · rw [write_of_fits sink bytes fitting]
    rfl
  · rw [write, if_neg fitting]

theorem accepted_of_put_ok {sink next : Sink} {bytes : Bytes}
    (delivered : sink.put bytes = (.ok (), next)) : next.accepted = sink.accepted ++ bytes := by
  rw [put] at delivered
  by_cases fitting : sink.fits bytes = true
  · rw [write_of_fits sink bytes fitting] at delivered
    rw [← (Prod.mk.inj delivered).2]
  · rw [write, if_neg fitting] at delivered
    cases delivered

end Sink
end Channel
end ExactFactorial
