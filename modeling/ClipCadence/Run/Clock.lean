import ClipCadence.Number.Binary64

/-!
How a clock waits. A clock that knows of the stop of a run waits for it during a pause, so that a
stop ends the pause at once; any other clock sleeps.
-/

namespace ClipCadence

open Number

structure Clock where
  knowsStop : Bool
  deriving DecidableEq, Repr

inductive Wait where
  | forStop (atMost : Binary64)
  | sleep (seconds : Binary64)
  deriving DecidableEq

def Clock.pause (clock : Clock) (seconds : Binary64) : Wait :=
  if clock.knowsStop then .forStop seconds else .sleep seconds

end ClipCadence
