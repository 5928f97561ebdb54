import ClipCadence.Clipboard.Session
import ClipCadence.Console.Markup
import ClipCadence.Console.Wrap
import ClipCadence.Run.Loop

/-!
Rehearsals: runs on a simulated clock, with a clipboard in memory or a tool whose starts have
outcomes that are given in advance. A rehearsal keeps a list of all calls in the order in which
they are made; a hook tells the run to stop right after a given one of them.
-/

namespace ClipCadence

open Number Text

/-! ### Calls -/

inductive Call where
  | now (moment : Moment)
  | sleep (seconds : Binary64)
  | copy (text : String)
  | start (call : ToolCall)
  | tell (notice : Notice) (report : Report)
  deriving DecidableEq

inductive CallKind where
  | now
  | sleep
  | copy
  | start
  | started
  | copying
  | failed
  | finished
  | interrupted
  deriving DecidableEq, Repr

def Notice.kind : Notice → CallKind
  | .started .. => .started
  | .copying _ => .copying
  | .failed .. => .failed
  | .finished => .finished
  | .interrupted => .interrupted

def Call.kind : Call → CallKind
  | .now _ => .now
  | .sleep _ => .sleep
  | .copy _ => .copy
  | .start _ => .start
  | .tell notice _ => notice.kind

/-- Tells the run to stop right after the call of this number among those of its kind. -/
structure Hook where
  kind : CallKind
  number : Nat
  deriving DecidableEq, Repr

/-! ### Crashes -/

/-- A length of time that the clock cannot go forward. -/
inductive Overflow where
  | infinite
  /-- A number of days that is no machine integer. -/
  | days
  | magnitude (days : Int)
  | calendar
  deriving DecidableEq, Repr

/-- What ends a run at once. -/
inductive Crash where
  /-- The clipboard fails in a way that is no failure of a write. -/
  | bug
  | clock (overflow : Overflow)
  | markup (error : Console.Markup.Error)
  deriving DecidableEq, Repr

/-! ### The world of a rehearsal -/

/-- How a start of a tool ends. -/
inductive Outcome where
  | done
  | failed (failure : ToolFailure)
  | crashed
  deriving DecidableEq, Repr

structure World where
  time : Moment
  /-- The microseconds that pass at each look at the clock. -/
  step : Int
  clipboard : Clipboard
  /-- The writes to memory that crash; they do not count as writes. -/
  crashOn : List Int
  /-- How the next starts of the tool end; all later ones succeed. -/
  outcomes : List Outcome
  hook : Option Hook
  stopped : Bool
  calls : List Call
  logs : List Log.Record
  printed : List Console.Line

/-- An action in a rehearsal: it may crash, and then leaves the world as it was at that point. -/
abbrev Rehearsal := ExceptT Crash (StateM World)

/-- Where the notices of a run go. -/
inductive Progress where
  | recorded
  | printed (lines : Notice → Report → Except Console.Markup.Error (List Console.Line))

namespace World

/-- The number of calls of a kind. -/
def countOf (w : World) (kind : CallKind) : Nat := w.calls.countP fun call => call.kind = kind

def fires (w : World) (kind : CallKind) : Bool :=
  w.hook.any fun hook => hook.kind = kind && hook.number = w.countOf kind

def record (call : Call) (w : World) : World :=
  let w := { w with calls := w.calls ++ [call] }
  { w with stopped := w.stopped || w.fires call.kind }

/-- The time after some microseconds. -/
def later (time : Moment) (micros : Int) : Except Overflow Moment :=
  let days := micros.fdiv microsPerDay
  if Nat.pow 2 31 ≤ days.natAbs then .error .days
  else if 999999999 < days.natAbs then .error (.magnitude days)
  else
    match time.later? micros with
    | some moment => .ok moment
    | none => .error .calendar

/-- The microseconds of a pause. -/
def pause : Binary64 → Except Overflow Int
  | .finite negative units =>
    .ok (if negative then -(Binary64.toMicros units : Int) else Binary64.toMicros units)
  | _ => .error .infinite

end World

namespace Rehearsal

def record (call : Call) : Rehearsal Unit := modify (World.record call)

def fail {α : Type} (crash : Crash) : Rehearsal α := throw crash

def advance (micros : Int) : Rehearsal Unit := do
  match World.later (← get).time micros with
  | .error overflow => fail (.clock overflow)
  | .ok time => modify fun w => { w with time := time }

def now : Rehearsal Moment := do
  let time := (← get).time
  record (.now time)
  advance (← get).step
  return time

def sleep (seconds : Binary64) : Rehearsal Unit := do
  match World.pause seconds with
  | .error overflow => fail (.clock overflow)
  | .ok micros =>
    advance micros
    record (.sleep seconds)

def copyToMemory (memory : Memory) (text : String) : Rehearsal (Except CopyError Unit) := do
  record (.copy text)
  if (← get).crashOn.contains (memory.next : Int) then fail .bug
  else
    let (result, memory) := memory.copy text
    modify fun w => { w with clipboard := .memory memory }
    return result

def startTool (tool : Tool) (text : String) : Rehearsal (Except CopyError Unit) := do
  record (.start (tool.call text))
  let outcomes := (← get).outcomes
  modify fun w => { w with outcomes := outcomes.tail }
  match outcomes.head? with
  | some .crashed => fail .bug
  | some (.failed failure) => return .error (tool.error failure)
  | _ => return .ok ()

def copy (text : String) : Rehearsal (Except CopyError Unit) := do
  match (← get).clipboard with
  | .memory memory => copyToMemory memory text
  | .tool tool => startTool tool text

def tell (progress : Progress) (notice : Notice) (report : Report) : Rehearsal Unit := do
  match progress with
  | .recorded => record (.tell notice report)
  | .printed lines =>
    match lines notice report with
    | .error error => fail (.markup error)
    | .ok lines => modify fun w => { w with printed := w.printed ++ lines }

def ports (clipboard : Clipboard) (progress : Progress) : Ports Rehearsal where
  clipboard := clipboard.name
  now := now
  sleep := sleep
  copy := copy
  stopped := return (← get).stopped
  tell := tell progress
  log record := modify fun w => { w with logs := w.logs ++ [record] }

end Rehearsal

/-- Rehearses a run in a world: its report or the crash that ended it, and the world after it. -/
def World.rehearse (w : World) (progress : Progress) (s : Settings) :
    Except Crash Report × World :=
  (run (Rehearsal.ports w.clipboard progress) s).run w

end ClipCadence
