import ClipCadence.Run.Ports
import ClipCadence.Settings.Basic

/-!
A run: as many events as the settings ask for, a pause after each. Before each event the run looks
whether it has been told to stop. A write that fails is reported and does not end the run.
-/

namespace ClipCadence.Run

open Text

/-! ### Log records -/

def emission (clipboard : RawText) (s : Settings) : Log.Record :=
  ⟨.info, s!"Emitting {s.count} events via " ++ clipboard.display ++ " (delay=" ++ s.delay.plain ++
    "s, label=" ++ quoted s.label ++ ")"⟩

def failedWrite (index : Nat) (error : CopyError) : Log.Record :=
  ⟨.warning, s!"Clipboard write {index} failed: " ++ error.message⟩

def copied (event : Event) : Log.Record := ⟨.debug, "Copied " ++ quoted event.payload⟩

def stoppedBefore (index : Nat) : Log.Record := ⟨.info, s!"Run cancelled before event {index}"⟩

def stoppedAfter (index : Nat) : Log.Record := ⟨.info, s!"Run cancelled after event {index}"⟩

def failures (report : Report) : Log.Record :=
  ⟨.warning, s!"{report.failed} of {report.attempted} clipboard writes failed"⟩

/-! ### The run -/

variable {m : Type → Type} [Monad m]

/-- One event, and the report after it. -/
def attempt (ports : Ports m) (label : String) (index : Nat) (report : Report) : m Report := do
  ports.tell (.copying index) report
  let moment ← ports.now
  let event := Event.make label index moment
  match ← ports.copy event.payload with
  | .error error =>
    ports.log (failedWrite index error)
    let report := report.recordFailure ⟨index, event.payload, error.message⟩
    ports.tell (.failed event error) report
    return report
  | .ok () =>
    ports.log (copied event)
    return report.recordSuccess event.contentType

/-- Whether there is a pause after an event. -/
def pausesAfter (s : Settings) (index : Nat) : Bool :=
  s.delay.isPositive && !(index = s.count && s.skipFinalDelay)

/-- The next `remaining` events, the first of which has the given index. -/
def events (ports : Ports m) (s : Settings) : (remaining index : Nat) → Report → m Report
  | 0, _, report => return report
  | remaining + 1, index, report => do
    if ← ports.stopped then
      ports.log (stoppedBefore index)
      return { report with cancelled := true }
    else
      let report ← attempt ports s.label index report
      if pausesAfter s index then ports.sleep s.delay
      events ports s remaining (index + 1) report

/-- A stop during the last event or the pause after it still cancels the run. -/
def lateStop (ports : Ports m) (report : Report) : m Report := do
  if report.cancelled then return report
  else if ← ports.stopped then
    ports.log (stoppedAfter report.attempted)
    return { report with cancelled := true }
  else return report

def outcome (report : Report) : Notice :=
  if report.cancelled then .interrupted else .finished

end ClipCadence.Run

namespace ClipCadence

variable {m : Type → Type} [Monad m]

/-- Runs the events of the settings through some ports. -/
def run (ports : Ports m) (s : Settings) : m Report := do
  let started ← ports.now
  let report := Report.empty s.count (some started)
  ports.tell (.started s.count s.delay ports.clipboard) report
  ports.log (Run.emission ports.clipboard s)
  let report ← Run.events ports s s.count 1 report
  let report ← Run.lateStop ports report
  let finished ← ports.now
  let report := { report with finished := some finished }
  ports.tell (Run.outcome report) report
  if report.failed ≠ 0 then ports.log (Run.failures report)
  return report

end ClipCadence
