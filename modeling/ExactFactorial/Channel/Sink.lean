import ExactFactorial.Channel.Fault
import ExactFactorial.Text.Utf8

namespace ExactFactorial
namespace Channel

/-!
# Sinks

A sink keeps the bytes that reached it and the length it had at each flush.  It may have a capacity,
and one of its flushes may fail.  A write that does not fit fills the sink and then meets an
obstacle; a write of nothing always fits.
-/

/-- How a sink misbehaves. -/
structure SinkRules where
  capacity : Option Nat := none
  /-- The number of the flush that fails, counted from one. -/
  failingFlush : Option Nat := none
  fault : Fault := ⟨.named "BrokenPipe", "broken pipe"⟩
  deriving Repr, DecidableEq

/-- What a write that does not fit meets once the sink is full. -/
def SinkRules.overflow (rules : SinkRules) : Obstacle :=
  match rules.fault.kind with
  | .interrupted => .stall
  | .writeZero => .fault ⟨.writeZero, "failed to write whole buffer"⟩
  | .named _ => .fault rules.fault

/-- What reached a sink so far. -/
structure Sink where
  rules : SinkRules := {}
  accepted : Bytes := []
  flushes : List Nat := []
  deriving Repr, DecidableEq

namespace Sink

/-- The bytes of a write for which there is room. -/
def admitted (sink : Sink) (bytes : Bytes) : Bytes :=
  match sink.rules.capacity with
  | none => bytes
  | some capacity => bytes.take (capacity - sink.accepted.length)

/-- Whether a write fits.  Nothing fits always. -/
def fits (sink : Sink) (bytes : Bytes) : Bool :=
  (sink.admitted bytes).length == bytes.length

/-- Write bytes.  Those for which there is room are accepted in any case. -/
def write (sink : Sink) (bytes : Bytes) : Except Obstacle Unit × Sink :=
  (if sink.fits bytes then .ok () else .error sink.rules.overflow,
    { sink with accepted := sink.accepted ++ sink.admitted bytes })

/-- Flush.  The length is kept also when the flush fails. -/
def flush (sink : Sink) : Except Obstacle Unit × Sink :=
  let next := { sink with flushes := sink.flushes ++ [sink.accepted.length] }
  (if sink.rules.failingFlush = some next.flushes.length then .error (.fault sink.rules.fault)
    else .ok (),
    next)

/-- Write bytes and flush, unless the write meets an obstacle. -/
def put (sink : Sink) (bytes : Bytes) : Except Obstacle Unit × Sink :=
  match sink.write bytes with
  | (.ok (), next) => next.flush
  | failed => failed

end Sink
end Channel
end ExactFactorial
