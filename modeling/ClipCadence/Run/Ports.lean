import ClipCadence.Clipboard.Tool
import ClipCadence.Event.Record
import ClipCadence.Log
import ClipCadence.Report

/-!
What a run asks of its surroundings: the time, a pause, a write to the clipboard, whether it has
been told to stop, and someone to tell about its progress. The ports are actions of any monad, so
a run can be rehearsed on a simulated clock.
-/

namespace ClipCadence

open Number Text

/-- What a run tells about its progress. -/
inductive Notice where
  | started (count : Nat) (delay : Binary64) (clipboard : RawText)
  | copying (index : Nat)
  | failed (event : Event) (error : CopyError)
  | finished
  | interrupted
  deriving DecidableEq

/-- The name from outside that a notice holds, if it holds any. -/
def Notice.named : Notice → RawText
  | .started _ _ clipboard => clipboard
  | .failed _ error => error.named
  | .copying _ | .finished | .interrupted => []

structure Ports (m : Type → Type) where
  clipboard : RawText
  now : m Moment
  sleep : Binary64 → m Unit
  copy : String → m (Except CopyError Unit)
  stopped : m Bool
  /-- A notice comes with the report so far. -/
  tell : Notice → Report → m Unit
  log : Log.Record → m Unit

end ClipCadence
