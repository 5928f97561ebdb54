import ClipCadence.Proofs.Fallible
import ClipCadence.Proofs.Run.Surroundings

/-!
Writes that fail do not disturb a run. The outline of a history is what is left of it without the
results of its writes: the notices of failures are dropped, and what the reports say about results.
Two runs with the same clock, told to stop at the same calls of their outlines, have the same
outline, whatever their clipboards make of the writes.

The clock of this module may refuse a call, which ends the run at once with an error. The proof
relates two actions that start from histories with the same outline. There is one lemma for each
port, one for the sequencing of two actions and one for what comes after a write, where the two
runs may do different things; the loop follows by induction on the number of events that remain.

Main statement: `failures_do_not_disturb`, for all clocks, all stops and any two clipboards.
-/

namespace ClipCadence

open Number Text

/-- A report without what it says about the results of the writes. -/
def Report.outline (report : Report) : Report :=
  { report with succeeded := 0, failures := [], tally := [] }

namespace Run

/-! ### Outlines -/

/-- A call without the result of a write; nothing is left of the notice of a failure. -/
def Exchange.outline? : Exchange → Option Exchange
  | .now moment => some (.now moment)
  | .sleep seconds => some (.sleep seconds)
  | .copy text _ => some (.copy text (.ok ()))
  | .tell (.failed ..) _ => none
  | .tell notice report => some (.tell notice report.outline)

def outline (history : History) : History := history.filterMap Exchange.outline?

theorem outline_append (first second : History) :
    outline (first ++ second) = outline first ++ outline second := List.filterMap_append

def Exchange.isClock : Exchange → Bool
  | .now _ => true
  | .sleep _ => true
  | _ => false

/-- The calls to the clock. -/
def clockCalls (history : History) : History := history.filter Exchange.isClock

/-- An outline keeps the calls to the clock. -/
theorem clockCalls_outline (history : History) :
    clockCalls (outline history) = clockCalls history := by
  induction history with
  | nil => rfl
  | cons call rest ih =>
    cases call with
    | now moment => exact congrArg (.now moment :: ·) ih
    | sleep seconds => exact congrArg (.sleep seconds :: ·) ih
    | copy text result => exact ih
    | tell notice report => cases notice <;> exact ih

theorem clockCalls_congr {h h' : History} (hsame : outline h = outline h') :
    clockCalls h = clockCalls h' := by
  rw [← clockCalls_outline, hsame, clockCalls_outline]

/-! ### A clock and a stop -/

/-- What two runs share: the name of the clipboard, a clock, and when they are told to stop. -/
structure Conductor (ε : Type) where
  clipboard : RawText
  /-- The answer to a look at the clock, after the calls made to it so far. -/
  now : History → Except ε Moment
  sleep : History → Binary64 → Except ε Unit
  /-- Whether the run is told to stop during the last call of an outline, or before the run if the
  outline is empty. -/
  stops : History → Bool

/-- Actions of a run that a clock may end. -/
abbrev Performance (ε : Type) := ExceptT ε (StateM History)

/-- How a clipboard answers, after all that has happened so far. -/
abbrev Answers := History → String → Except CopyError Unit

/-- A call that is answered after what has happened so far, or refused. -/
def ask {ε α : Type} (answer : History → Except ε (α × Exchange)) : Performance ε α :=
  ExceptT.mk fun history =>
    match answer history with
    | .ok (value, call) => (.ok value, history ++ [call])
    | .error error => (.error error, history)

namespace Conductor

variable {ε : Type}

/-- Whether the run has been told to stop by the end of a history. -/
def told (conductor : Conductor ε) (history : History) : Bool :=
  (outline history).inits.any conductor.stops

def ports (conductor : Conductor ε) (copy : Answers) : Ports (Performance ε) where
  clipboard := conductor.clipboard
  now := ask fun history =>
    (conductor.now (clockCalls history)).map fun moment => (moment, .now moment)
  sleep seconds := ask fun history =>
    (conductor.sleep (clockCalls history) seconds).map fun _ => ((), .sleep seconds)
  copy text := ask fun history => .ok (copy history text, .copy text (copy history text))
  stopped := ExceptT.mk fun history => (.ok (conductor.told history), history)
  tell notice report := ask fun _ => .ok ((), .tell notice report)
  log _ := return

/-- The report of a run, or the error that ended it, and the calls it made. -/
def perform (conductor : Conductor ε) (copy : Answers) (s : Settings) :
    Except ε Report × History :=
  (ClipCadence.run (conductor.ports copy) s).run []

end Conductor

/-! ### Actions that look alike -/

/-- Two results: values that are related, or the same error. -/
inductive Matching {ε α : Type} (related : α → α → Prop) : Except ε α → Except ε α → Prop
  | values {a b : α} (h : related a b) : Matching related (.ok a) (.ok b)
  | errors (error : ε) : Matching related (.error error) (.error error)

/-- Two actions that keep outlines the same and have matching results. -/
def Alike {ε α : Type} (related : α → α → Prop) (x y : Performance ε α) : Prop :=
  ∀ ⦃h h' : History⦄, outline h = outline h' →
    Matching related (x.run h).1 (y.run h').1 ∧ outline (x.run h).2 = outline (y.run h').2

section Alike

variable {ε α β : Type}

theorem Alike.pure {related : α → α → Prop} {a b : α} (h : related a b) :
    Alike related (pure a : Performance ε α) (pure b) :=
  fun _ _ hsame => ⟨.values h, hsame⟩

theorem Alike.bind {related : α → α → Prop} {related' : β → β → Prop} {x y : Performance ε α}
    {f g : α → Performance ε β} (hxy : Alike related x y)
    (hfg : ∀ a b, related a b → Alike related' (f a) (g b)) :
    Alike related' (x >>= f) (y >>= g) := by
  intro h h' hsame
  obtain ⟨hresult, houtline⟩ := hxy hsame
  rcases hx : x.run h with ⟨result, after⟩
  rcases hy : y.run h' with ⟨result', after'⟩
  rw [hx, hy] at hresult houtline
  cases hresult with
  | values hab =>
    rw [Fallible.run_bind_ok hx, Fallible.run_bind_ok hy]
    exact hfg _ _ hab houtline
  | errors error =>
    rw [Fallible.run_bind_error hx, Fallible.run_bind_error hy]
    exact ⟨.errors error, houtline⟩

/-- Two calls whose answers match and which have the same outline. -/
theorem Alike.ask {related : α → α → Prop} {answer answer' : History → Except ε (α × Exchange)}
    (h : ∀ past past', outline past = outline past' →
      Matching (fun a b => related a.1 b.1 ∧ a.2.outline? = b.2.outline?)
        (answer past) (answer' past')) :
    Alike related (ask answer) (ask answer') := by
  intro past past' hsame
  have hanswers := h past past' hsame
  simp only [Run.ask, ExceptT.run_mk]
  generalize answer past = result at hanswers ⊢
  generalize answer' past' = result' at hanswers ⊢
  cases hanswers with
  | values hvalues =>
    refine ⟨.values hvalues.1, ?_⟩
    rw [outline_append, outline_append, hsame]
    simp only [outline, List.filterMap_cons, hvalues.2]
  | errors error => exact ⟨.errors error, hsame⟩

theorem Matching.map_eq {view : α → β} {result result' : Except ε α}
    (h : Matching (fun a b => view a = view b) result result') :
    result.map view = result'.map view := by
  cases h with
  | values hview => exact congrArg Except.ok hview
  | errors error => rfl

/-- What is made of two answers that are the same. -/
theorem Matching.map {related : β → β → Prop} {f g : α → β} (h : ∀ a, related (f a) (g a))
    (answer : Except ε α) : Matching related (answer.map f) (answer.map g) := by
  cases answer with
  | ok a => exact .values (h a)
  | error error => exact .errors error

end Alike

/-! ### Reports of the same outline -/

/-- Reports that differ only in the results of writes. -/
def SameOutline (report report' : Report) : Prop := report.outline = report'.outline

namespace SameOutline

variable {report report' : Report}

theorem attempted (h : SameOutline report report') : report.attempted = report'.attempted := by
  have houtline : report.outline.attempted = report'.outline.attempted :=
    congrArg Report.attempted h
  exact houtline

theorem cancelled (h : SameOutline report report') : report.cancelled = report'.cancelled := by
  have houtline : report.outline.cancelled = report'.outline.cancelled :=
    congrArg Report.cancelled h
  exact houtline

theorem cancel (h : SameOutline report report') :
    SameOutline { report with cancelled := true } { report' with cancelled := true } := by
  have houtline : { report.outline with cancelled := true } =
      { report'.outline with cancelled := true } := by rw [h]
  exact houtline

theorem finish (h : SameOutline report report') (finished : Moment) :
    SameOutline { report with finished := some finished }
      { report' with finished := some finished } := by
  have houtline : { report.outline with finished := some finished } =
      { report'.outline with finished := some finished } := by rw [h]
  exact houtline

end SameOutline

/-! ### The ports -/

section Ports

variable {ε : Type} (conductor : Conductor ε) (copy copy' : Answers)

theorem alike_now :
    Alike (· = ·) (conductor.ports copy).now (conductor.ports copy').now := by
  refine Alike.ask fun past past' hsame => ?_
  rw [clockCalls_congr hsame]
  exact Matching.map (fun moment => ⟨rfl, rfl⟩) _

theorem alike_sleep (seconds : Binary64) :
    Alike (· = ·) ((conductor.ports copy).sleep seconds)
      ((conductor.ports copy').sleep seconds) := by
  refine Alike.ask fun past past' hsame => ?_
  rw [clockCalls_congr hsame]
  exact Matching.map (fun _ => ⟨rfl, rfl⟩) _

/-- Two writes of the same text look alike, but nothing relates their results. -/
theorem alike_copy (text : String) :
    Alike (fun _ _ => True) ((conductor.ports copy).copy text)
      ((conductor.ports copy').copy text) :=
  Alike.ask fun _ _ _ => .values ⟨trivial, rfl⟩

theorem alike_stopped :
    Alike (· = ·) (conductor.ports copy).stopped (conductor.ports copy').stopped := by
  intro h h' hsame
  -- A stop is found out from the outline alone; a notice of a failure cannot bring it forward.
  have htold : conductor.told h = conductor.told h' := by
    rw [Conductor.told, Conductor.told, hsame]
  exact ⟨.values htold, hsame⟩

theorem alike_tell (notice : Notice) {report report' : Report} (h : SameOutline report report') :
    Alike (· = ·) ((conductor.ports copy).tell notice report)
      ((conductor.ports copy').tell notice report') := by
  refine Alike.ask fun _ _ _ => .values ⟨rfl, ?_⟩
  cases notice with
  | failed event error => rfl
  | started | copying | finished | interrupted =>
    exact congrArg (fun outline => some (Exchange.tell _ outline)) h

theorem alike_log (record record' : Log.Record) :
    Alike (· = ·) ((conductor.ports copy).log record) ((conductor.ports copy').log record') :=
  .pure rfl

end Ports

/-! ### One event -/

/-- An action that comes to a report with a certain outline and adds nothing to the outline of the
history. -/
def Settles {ε : Type} (x : Performance ε Report) (target : Report) : Prop :=
  ∀ h, ∃ report after, x.run h = (.ok report, after) ∧ report.outline = target ∧
    outline after = outline h

theorem Settles.alike {ε : Type} {x y : Performance ε Report} {target : Report}
    (hx : Settles x target) (hy : Settles y target) : Alike SameOutline x y := by
  intro h h' hsame
  obtain ⟨report, after, hrun, hreport, houtline⟩ := hx h
  obtain ⟨report', after', hrun', hreport', houtline'⟩ := hy h'
  rw [hrun, hrun']
  exact ⟨.values (hreport.trans hreport'.symm), houtline.trans (hsame.trans houtline'.symm)⟩

section Event

variable {ε : Type} (conductor : Conductor ε) (copy copy' : Answers) (s : Settings)

/-- What a run does after a write, whatever the result: it counts one attempt more. -/
theorem settles_result (event : Event) (index : Nat) (report : Report)
    (result : Except CopyError Unit) :
    Settles (match result with
      | .error error => do
        (conductor.ports copy).log (failedWrite index error)
        let report := report.recordFailure ⟨index, event.payload, error.message⟩
        (conductor.ports copy).tell (.failed event error) report
        return report
      | .ok () => do
        (conductor.ports copy).log (copied event)
        return report.recordSuccess event.contentType)
      { report.outline with attempted := report.attempted + 1 } := by
  intro h
  cases result with
  | ok done => exact ⟨_, h, rfl, rfl, rfl⟩
  | error error =>
    let report := report.recordFailure ⟨index, event.payload, error.message⟩
    refine ⟨report, h ++ [.tell (.failed event error) report], rfl, rfl, ?_⟩
    rw [outline_append]
    exact List.append_nil _

theorem alike_attempt (index : Nat) {report report' : Report} (h : SameOutline report report') :
    Alike SameOutline (attempt (conductor.ports copy) s.label index report)
      (attempt (conductor.ports copy') s.label index report') := by
  refine (alike_tell conductor copy copy' (.copying index) h).bind fun _ _ _ => ?_
  refine (alike_now conductor copy copy').bind ?_
  rintro moment _ rfl
  refine (alike_copy conductor copy copy' _).bind fun result result' _ => ?_
  -- Nothing relates the two results, so the two ends are compared by where they settle.
  have hsettles := settles_result conductor copy (Event.make s.label index moment) index report
    result
  rw [h.attempted, h] at hsettles
  exact hsettles.alike (settles_result conductor copy' _ index report' result')

end Event

/-! ### The run -/

section Run

variable {ε : Type} (conductor : Conductor ε) (copy copy' : Answers) (s : Settings)

/-- The loop, by induction on the number of events that remain. Where an event ends in one run it
ends in the other, with reports of the same outline. -/
theorem alike_events (remaining index : Nat) {report report' : Report}
    (h : SameOutline report report') :
    Alike SameOutline (events (conductor.ports copy) s remaining index report)
      (events (conductor.ports copy') s remaining index report') := by
  induction remaining generalizing index report report' with
  | zero => exact .pure h
  | succ remaining ih =>
    refine (alike_stopped conductor copy copy').bind ?_
    rintro stopped _ rfl
    cases stopped with
    | true =>
      exact (alike_log conductor copy copy' _ _).bind fun _ _ _ => .pure h.cancel
    | false =>
      refine (alike_attempt conductor copy copy' s index h).bind fun report report' h => ?_
      cases hpause : pausesAfter s index with
      | true =>
        rw [if_pos rfl, if_pos rfl]
        exact (alike_sleep conductor copy copy' s.delay).bind fun _ _ _ => ih (index + 1) h
      | false =>
        exact ih (index + 1) h

theorem alike_lateStop {report report' : Report} (h : SameOutline report report') :
    Alike SameOutline (lateStop (conductor.ports copy) report)
      (lateStop (conductor.ports copy') report') := by
  rw [lateStop, lateStop, h.cancelled]
  split
  · exact .pure h
  · refine (alike_stopped conductor copy copy').bind ?_
    rintro stopped _ rfl
    cases stopped with
    | true =>
      exact (alike_log conductor copy copy' _ _).bind fun _ _ _ => .pure h.cancel
    | false => exact .pure h

/-- The end of a run. What it logs about its failures is no call. -/
theorem alike_end {report report' : Report} (h : SameOutline report report') :
    Alike SameOutline
      (do
        (conductor.ports copy).tell (outcome report) report
        if report.failed ≠ 0 then (conductor.ports copy).log (failures report)
        return report)
      (do
        (conductor.ports copy').tell (outcome report') report'
        if report'.failed ≠ 0 then (conductor.ports copy').log (failures report')
        return report') := by
  have hquiet (copy : Answers) (report : Report) :
      Settles (do
        if report.failed ≠ 0 then (conductor.ports copy).log (failures report)
        return report) report.outline := by
    intro past
    refine ⟨report, past, ?_, rfl, rfl⟩
    split <;> rfl
  have houtcome : outcome report = outcome report' := by rw [outcome, outcome, h.cancelled]
  rw [houtcome]
  refine (alike_tell conductor copy copy' _ h).bind fun _ _ _ => ?_
  exact (hquiet copy report).alike (h ▸ hquiet copy' report')

theorem alike_run :
    Alike SameOutline (ClipCadence.run (conductor.ports copy) s)
      (ClipCadence.run (conductor.ports copy') s) := by
  refine (alike_now conductor copy copy').bind ?_
  rintro started _ rfl
  refine (alike_tell conductor copy copy' _ rfl).bind fun _ _ _ => ?_
  refine (alike_log conductor copy copy' _ _).bind fun _ _ _ => ?_
  refine (alike_events conductor copy copy' s s.count 1 rfl).bind fun report report' h => ?_
  refine (alike_lateStop conductor copy copy' h).bind fun report report' h => ?_
  refine (alike_now conductor copy copy').bind ?_
  rintro finished _ rfl
  exact alike_end conductor copy copy' (h.finish finished)

end Run

/-- **Failures do not disturb a run.** With the same clock, and told to stop at the same calls, two
runs show the same indices, look at the clock at the same times, write the same texts, make the
same pauses and end in the same way, also if the clock ends them; their reports differ only in what
they say about the results of the writes. This holds whatever the two clipboards make of each
write. -/
theorem failures_do_not_disturb {ε : Type} (conductor : Conductor ε) (copy copy' : Answers)
    (s : Settings) :
    let first := conductor.perform copy s
    let second := conductor.perform copy' s
    outline first.2 = outline second.2 ∧
      first.1.map Report.outline = second.1.map Report.outline := by
  intro first second
  have hempty : outline [] = outline [] := rfl
  obtain ⟨hresult, houtline⟩ := alike_run conductor copy copy' s hempty
  exact ⟨houtline, hresult.map_eq⟩

end Run

end ClipCadence
