namespace ExactFactorial
namespace Channel

/-!
# Faults of channels

A channel can fail in many ways, and the program tells only two of them apart.  A read or a write
that was interrupted is tried again, and no one hears of it, whereas a flush is tried once.  A sink
of kind `writeZero` accepts nothing more without saying why, so that its writer has to find the
words.

A write that is interrupted at every attempt is tried again without end.  It never fails, and it is
never done.
-/

/-- The kind of a fault. -/
inductive FaultKind where
  | interrupted
  | writeZero
  /-- Any other kind, by its name. -/
  | named (name : String)
  deriving Repr, DecidableEq

/-- A failure of a channel, with the text that explains it. -/
structure Fault where
  kind : FaultKind
  message : String
  deriving Repr, DecidableEq

/-- Why something that was asked of a channel was not done. -/
inductive Obstacle where
  | fault (fault : Fault)
  /-- There is no end to the attempts, because all of them are interrupted. -/
  | stall
  deriving Repr, DecidableEq

end Channel
end ExactFactorial
