import ExactFactorial.Proofs.Channel.Delivery

namespace ExactFactorial
namespace Channel

/-!
# Writes in attempts

A sink is not written to at one stroke.  Each attempt hands it all bytes that are left, and it takes
as many as it has room for, or meets a fault.  The attempts end when no bytes are left, when an
attempt takes none of them, or at a fault other than an interruption.  An interruption is no reason
to stop, and it leaves the sink as it was.

Here a writer that makes attempts is compared with the write that is done at once.  One attempt
leaves a write that ends as the whole write does, so that whatever the attempts end with is what the
write gives.  Two attempts are enough, unless the sink interrupts when it is full.  Then no number
of them is.
-/

namespace Sink

/-- One attempt: the number of bytes taken, or a fault.  A full sink that gives no reason takes none
of them. -/
def attempt (sink : Sink) (bytes : Bytes) : Except Fault Nat :=
  if sink.admitted bytes = [] ∧ sink.rules.fault.kind ≠ .writeZero then .error sink.rules.fault
  else .ok (sink.admitted bytes).length

/-- What a writer ends with that makes at most so many attempts, or `none` if it has not ended by
then. -/
def writeWithin : Nat → Sink → Bytes → Option (Except Fault Unit × Sink)
  | _, sink, [] => some (.ok (), sink)
  | 0, _, _ :: _ => none
  | limit + 1, sink, byte :: later =>
      match sink.attempt (byte :: later) with
      | .ok 0 => some (.error ⟨.writeZero, "failed to write whole buffer"⟩, sink)
      | .ok taken =>
          writeWithin limit { sink with accepted := sink.accepted ++ (byte :: later).take taken }
            ((byte :: later).drop taken)
      | .error fault =>
          if fault.kind = .interrupted then writeWithin limit sink (byte :: later)
          else some (.error fault, sink)

/-! ## One attempt -/

/-- What a sink has room for fits. -/
theorem fits_admitted (sink : Sink) (bytes : Bytes) : sink.fits (sink.admitted bytes) = true := by
  rw [fits, beq_iff_eq, admitted, admitted]
  cases sink.rules.capacity with
  | none => rfl
  | some capacity =>
      simp only [List.length_take]
      omega

theorem admitted_append_drop (sink : Sink) (bytes : Bytes) :
    sink.admitted bytes ++ bytes.drop (sink.admitted bytes).length = bytes := by
  have begins := List.prefix_iff_eq_take.mp (sink.admitted_begins bytes)
  calc sink.admitted bytes ++ bytes.drop (sink.admitted bytes).length
    _ = bytes.take (sink.admitted bytes).length ++ bytes.drop (sink.admitted bytes).length :=
        congrArg (· ++ bytes.drop (sink.admitted bytes).length) begins
    _ = bytes := List.take_append_drop _ _

/-- After an attempt that takes bytes, the rest of the write is to be done. -/
theorem write_eq_after (sink : Sink) (bytes : Bytes) :
    sink.write bytes =
      { sink with accepted := sink.accepted ++ sink.admitted bytes }.write
        (bytes.drop (sink.admitted bytes).length) := by
  have first := write_of_fits sink _ (sink.fits_admitted bytes)
  have whole := sink.write_append (sink.admitted bytes) (bytes.drop (sink.admitted bytes).length)
  rw [admitted_append_drop, first] at whole
  exact whole

/-- For that rest there is no room. -/
theorem admitted_after (sink : Sink) (bytes : Bytes) :
    { sink with accepted := sink.accepted ++ sink.admitted bytes }.admitted
      (bytes.drop (sink.admitted bytes).length) = [] := by
  apply List.eq_nil_of_length_eq_zero
  unfold admitted
  cases limited : sink.rules.capacity with
  | none => simp only [List.length_drop, Nat.sub_self]
  | some capacity =>
      simp only [List.length_take, List.length_drop, List.length_append]
      omega

/-- A sink without room for any byte is left as it is. -/
theorem write_of_full {sink : Sink} {bytes : Bytes} (full : sink.admitted bytes = [])
    (some : bytes ≠ []) : sink.write bytes = (.error sink.rules.overflow, sink) := by
  have unfitting : ¬ sink.fits bytes = true := by
    rw [fits, full, beq_iff_eq, List.length_nil, eq_comm, List.length_eq_zero_iff]
    exact some
  rw [write, if_neg unfitting, full, List.append_nil]

/-- An attempt that finds room leaves the rest to the attempts after it. -/
theorem writeWithin_of_room {sink : Sink} {bytes : Bytes} (room : sink.admitted bytes ≠ [])
    (limit : Nat) :
    writeWithin (limit + 1) sink bytes =
      writeWithin limit { sink with accepted := sink.accepted ++ sink.admitted bytes }
        (bytes.drop (sink.admitted bytes).length) := by
  have begins := List.prefix_iff_eq_take.mp (sink.admitted_begins bytes)
  have taken : sink.attempt bytes = .ok (sink.admitted bytes).length :=
    if_neg fun full => room full.1
  cases bytes with
  | nil => exact absurd (List.prefix_nil.mp (sink.admitted_begins [])) room
  | cons byte later =>
      rw [writeWithin, taken]
      cases length : (sink.admitted (byte :: later)).length with
      | zero => exact absurd (List.eq_nil_of_length_eq_zero length) room
      | succ count =>
          rw [length] at begins
          rw [begins]
          rfl

/-- A full sink gives its fault to an attempt, and only an interruption is followed by another. -/
theorem writeWithin_of_full {sink : Sink} {bytes : Bytes} (full : sink.admitted bytes = [])
    (some : bytes ≠ []) (limit : Nat) :
    writeWithin (limit + 1) sink bytes =
      match sink.rules.overflow with
      | .stall => writeWithin limit sink bytes
      | .fault fault => .some (.error fault, sink) := by
  cases bytes with
  | nil => exact absurd rfl some
  | cons byte later =>
      rw [writeWithin, attempt, full, SinkRules.overflow]
      cases kind : sink.rules.fault.kind with
      | interrupted => simp [kind]
      | writeZero => simp
      | named name => simp [kind]

/-! ## One attempt after another -/

/-- Whatever the attempts end with is what the write gives.  The induction is on their number, for
every sink, because an attempt that takes bytes leaves another sink. -/
theorem write_of_writeWithin {limit : Nat} {sink next : Sink} {bytes : Bytes}
    {result : Except Fault Unit} (ended : writeWithin limit sink bytes = some (result, next)) :
    sink.write bytes = (result.mapError .fault, next) := by
  induction limit generalizing sink bytes with
  | zero =>
      cases bytes with
      | nil =>
          cases ended
          exact next.write_nil
      | cons byte later => cases ended
  | succ limit inductionHypothesis =>
      by_cases nothing : bytes = []
      · subst nothing
        cases ended
        exact next.write_nil
      by_cases full : sink.admitted bytes = []
      · rw [writeWithin_of_full full nothing] at ended
        cases stopped : sink.rules.overflow with
        | stall =>
            rw [stopped] at ended
            exact inductionHypothesis ended
        | fault fault =>
            rw [stopped] at ended
            cases ended
            rw [write_of_full full nothing, stopped]
            rfl
      · rw [writeWithin_of_room full] at ended
        rw [write_eq_after]
        exact inductionHypothesis ended

/-- On a full sink one attempt is the end, unless it stalls. -/
theorem exists_end_of_full {sink : Sink} {bytes : Bytes} (full : sink.admitted bytes = [])
    (unstalled : (sink.write bytes).1 ≠ .error .stall) (limit : Nat) :
    ∃ ending, writeWithin (limit + 1) sink bytes = some ending := by
  by_cases nothing : bytes = []
  · subst nothing
    exact ⟨_, rfl⟩
  · rw [write_of_full full nothing] at unstalled
    rw [writeWithin_of_full full nothing]
    cases stopped : sink.rules.overflow with
    | stall => exact absurd (congrArg Except.error stopped) unstalled
    | fault fault => exact ⟨_, rfl⟩

/-- Two attempts are the end of every other write. -/
theorem exists_end_of_unstalled {sink : Sink} {bytes : Bytes}
    (unstalled : (sink.write bytes).1 ≠ .error .stall) :
    ∃ ending, writeWithin 2 sink bytes = some ending := by
  by_cases full : sink.admitted bytes = []
  · exact exists_end_of_full full unstalled 1
  · rw [write_eq_after] at unstalled
    rw [writeWithin_of_room full]
    exact exists_end_of_full (sink.admitted_after bytes) unstalled 0

/-- What a writer ends with is told apart as an end of the write, and it is no stall. -/
theorem mapError_fault_inj {left right : Except Fault Unit}
    (same : left.mapError Obstacle.fault = right.mapError Obstacle.fault) : left = right := by
  cases left with
  | ok done =>
      cases right with
      | ok other => rfl
      | error fault => exact nomatch same
  | error fault =>
      cases right with
      | ok other => exact nomatch same
      | error other => exact congrArg Except.error (Obstacle.fault.inj (Except.error.inj same))

theorem mapError_fault_ne_stall (result : Except Fault Unit) :
    result.mapError Obstacle.fault ≠ .error .stall := by
  cases result with
  | ok done => exact fun same => nomatch same
  | error fault => exact fun same => nomatch same

/-- A write gives a result exactly when attempts end with it. -/
theorem write_eq_iff (sink next : Sink) (bytes : Bytes) (result : Except Fault Unit) :
    sink.write bytes = (result.mapError .fault, next) ↔
      ∃ limit, writeWithin limit sink bytes = some (result, next) := by
  constructor
  · intro written
    have unstalled : (sink.write bytes).1 ≠ .error .stall := by
      rw [written]
      exact mapError_fault_ne_stall result
    rcases exists_end_of_unstalled unstalled with ⟨⟨other, after⟩, ended⟩
    have same := (write_of_writeWithin ended).symm.trans written
    rw [mapError_fault_inj (Prod.mk.inj same).1, (Prod.mk.inj same).2] at ended
    exact ⟨2, ended⟩
  · rintro ⟨limit, ended⟩
    exact write_of_writeWithin ended

/-- A write stalls exactly when no number of attempts is enough. -/
theorem write_stalls_iff (sink : Sink) (bytes : Bytes) :
    (sink.write bytes).1 = .error .stall ↔ ∀ limit, writeWithin limit sink bytes = none := by
  constructor
  · intro stalled limit
    cases ended : writeWithin limit sink bytes with
    | none => rfl
    | some ending =>
        rw [write_of_writeWithin ended] at stalled
        exact absurd stalled (mapError_fault_ne_stall ending.1)
  · intro endless
    apply Classical.byContradiction
    intro unstalled
    rcases exists_end_of_unstalled unstalled with ⟨ending, ended⟩
    rw [endless] at ended
    cases ended

end Sink
end Channel
end ExactFactorial
