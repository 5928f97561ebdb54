import ClipCadence.Proofs.Fallible
import ClipCadence.Run.Rehearsal

/-!
Rehearsals that end in a report. A run crashes for three reasons only: the clipboard fails in a way
that is no failure of a write, the clock is asked to go where it cannot, or a notice cannot be
printed. The notices of a run hold no name from outside but that of its clipboard. `World.lasts`
goes through the moves that the clock makes in a run without a stop; a run that is told to stop
makes the first ones of these, so whether a run crashes at the clock does not depend on when it is
told to, nor on which of its writes fail.

Main statement: `rehearse_ends`, a run that none of the three reasons applies to ends in a report.
-/

namespace ClipCadence

open Number Text

/-! ### Notices -/

/-- No name from outside, or that of the clipboard. -/
def NamesOnly (clipboard name : RawText) : Prop := name = [] ∨ name = clipboard

theorem Memory.named_eq_nil {memory : Memory} {text : String} {error : CopyError}
    (h : (memory.copy text).1 = .error error) : error.named = [] := by
  unfold copy at h
  split at h
  · rw [← Except.error.inj h]
    rfl
  · cases h

namespace Rehearsal

/-- Notices that can all be printed, or are only recorded, in the run of a clipboard. -/
def Shows (clipboard : RawText) : Progress → Prop
  | .recorded => True
  | .printed lines => ∀ notice report, NamesOnly clipboard notice.named →
      ∃ shown, lines notice report = .ok shown

end Rehearsal

/-! ### The clock of a run -/

namespace World

/-- The time after the pause that follows an event, if one does. -/
def afterPause (s : Settings) (index : Nat) (time : Moment) : Except Overflow Moment :=
  if Run.pausesAfter s index then do
    let micros ← pause s.delay
    later time micros
  else .ok time

/-- The time after the next `remaining` events, the first of which has the given index. -/
def afterEvents (step : Int) (s : Settings) :
    (remaining index : Nat) → Moment → Except Overflow Moment
  | 0, _, time => .ok time
  | remaining + 1, index, time => do
    let time ← later time step
    let time ← afterPause s index time
    afterEvents step s remaining (index + 1) time

/-- Whether the clock can make all the moves of a run that is not told to stop: at the look at it
before the events, during them, and at the look after them. -/
def lasts (w : World) (s : Settings) : Bool :=
  let finish : Except Overflow Moment := do
    let time ← later w.time w.step
    let time ← afterEvents w.step s s.count 1 time
    later time w.step
  finish.isOk

theorem later_of_lasts {w : World} {s : Settings} (h : w.lasts s = true) :
    ∃ time, later w.time w.step = .ok time := by
  cases hlater : later w.time w.step with
  | error overflow =>
    rw [lasts, hlater] at h
    cases h
  | ok time => exact ⟨time, rfl⟩

end World

/-! ### Actions that end -/

namespace Rehearsal

/-- From a world, an action ends without a crash, in a result and a world with a property. -/
def Ends {α : Type} (action : Rehearsal α) (w : World) (P : α → World → Prop) : Prop :=
  ∃ a after, action.run w = (.ok a, after) ∧ P a after

section Rules

variable {α β : Type} {action : Rehearsal α} {next : α → Rehearsal β} {w : World}
  {P : α → World → Prop} {Q : β → World → Prop}

theorem Ends.bind (h : Ends action w P) (hnext : ∀ a after, P a after → Ends (next a) after Q) :
    Ends (action >>= next) w Q := by
  obtain ⟨a, after, hrun, hpost⟩ := h
  obtain ⟨b, last, hlast, hend⟩ := hnext a after hpost
  exact ⟨b, last, (Fallible.run_bind_ok hrun).trans hlast, hend⟩

theorem Ends.pure {a : α} (h : P a w) : Ends (Pure.pure a) w P := ⟨a, w, rfl, h⟩

theorem Ends.get_bind {next : World → Rehearsal β} (h : Ends (next w) w Q) :
    Ends (get >>= next) w Q :=
  Ends.bind (P := fun a after => a = w ∧ after = w) ⟨w, w, rfl, rfl, rfl⟩
    (by rintro _ _ ⟨rfl, rfl⟩; exact h)

theorem Ends.modify {f : World → World} {P : Unit → World → Prop} (h : P () (f w)) :
    Ends (modify f) w P := ⟨(), f w, rfl, h⟩

end Rules

/-- A world in which a run does not crash at the clipboard of some name, at some time, with a clock
that goes forward by `step` at each look at it. -/
structure Calm (name : RawText) (time : Moment) (step : Int) (w : World) : Prop where
  name_eq : w.clipboard.name = name
  time_eq : w.time = time
  step_eq : w.step = step
  memory : w.crashOn = []
  tool : Outcome.crashed ∉ w.outcomes

section Calls

variable {w : World} {name : RawText} {time next : Moment} {step : Int}

theorem Calm.record (h : Calm name time step w) (call : Call) :
    Calm name time step (w.record call) :=
  ⟨h.name_eq, h.time_eq, h.step_eq, h.memory, h.tool⟩

theorem record_ends (h : Calm name time step w) (call : Call) :
    Ends (record call) w fun _ after => Calm name time step after := Ends.modify (h.record call)

theorem advance_ends {micros : Int} (h : Calm name time step w)
    (hlater : World.later time micros = .ok next) :
    Ends (advance micros) w fun _ after => Calm name next step after := by
  refine Ends.get_bind ?_
  rw [h.time_eq, hlater]
  exact Ends.modify ⟨h.name_eq, rfl, h.step_eq, h.memory, h.tool⟩

theorem now_ends (h : Calm name time step w) (hlater : World.later time step = .ok next) :
    Ends now w fun _ after => Calm name next step after := by
  refine Ends.get_bind (Ends.bind (record_ends h _) fun _ after hafter => Ends.get_bind ?_)
  rw [hafter.step_eq]
  exact Ends.bind (advance_ends hafter hlater) fun _ _ hafter => Ends.pure hafter

theorem sleep_ends {seconds : Binary64} {micros : Int} (h : Calm name time step w)
    (hpause : World.pause seconds = .ok micros) (hlater : World.later time micros = .ok next) :
    Ends (sleep seconds) w fun _ after => Calm name next step after := by
  rw [sleep, hpause]
  exact Ends.bind (advance_ends h hlater) fun _ _ hafter => record_ends hafter _

/-- What a write comes to, in the world after it: an error names the clipboard at most. -/
def Written (name : RawText) (time : Moment) (step : Int) (result : Except CopyError Unit)
    (after : World) : Prop :=
  Calm name time step after ∧ ∀ error, result = .error error → NamesOnly name error.named

theorem copyToMemory_ends (h : Calm name time step w) {memory : Memory}
    (hmemory : w.clipboard = .memory memory) (text : String) :
    Ends (copyToMemory memory text) w (Written name time step) := by
  have hname : RawText.ofString Memory.name = name := by
    rw [← h.name_eq, hmemory]
    rfl
  refine Ends.bind (record_ends h _) fun _ after hafter => Ends.get_bind ?_
  rw [hafter.memory]
  refine Ends.bind (P := fun _ later => Calm name time step later)
    (Ends.modify ⟨hname, hafter.time_eq, hafter.step_eq, hafter.memory, hafter.tool⟩) ?_
  exact fun _ later hlater => Ends.pure ⟨hlater, fun error h => .inl (Memory.named_eq_nil h)⟩

theorem startTool_ends (h : Calm name time step w) {tool : Tool}
    (htool : w.clipboard = .tool tool) (text : String) :
    Ends (startTool tool text) w (Written name time step) := by
  have hname : tool.name = name := by
    rw [← h.name_eq, htool]
    rfl
  refine Ends.bind (record_ends h _) fun _ after hafter => Ends.get_bind ?_
  have htail : Outcome.crashed ∉ after.outcomes.tail := fun hmem =>
    hafter.tool (List.mem_of_mem_tail hmem)
  refine Ends.bind (P := fun _ later => Calm name time step later)
    (Ends.modify ⟨hafter.name_eq, hafter.time_eq, hafter.step_eq, hafter.memory, htail⟩) ?_
  intro _ later hlater
  split
  · next hhead => exact absurd (List.mem_of_mem_head? hhead) hafter.tool
  · exact Ends.pure ⟨hlater, fun error herror => .inr (Except.error.inj herror ▸ hname)⟩
  · exact Ends.pure ⟨hlater, nofun⟩

theorem copy_ends (h : Calm name time step w) (text : String) :
    Ends (copy text) w (Written name time step) := by
  refine Ends.get_bind ?_
  cases hclipboard : w.clipboard with
  | memory memory => exact copyToMemory_ends h hclipboard text
  | tool tool => exact startTool_ends h hclipboard text

theorem tell_ends {progress : Progress} (hshows : Shows name progress)
    (h : Calm name time step w) (notice : Notice) (report : Report)
    (hnames : NamesOnly name notice.named) :
    Ends (tell progress notice report) w fun _ after => Calm name time step after := by
  cases progress with
  | recorded => exact record_ends h _
  | printed lines =>
    obtain ⟨shown, hshown⟩ := hshows notice report hnames
    rw [tell, hshown]
    exact Ends.modify ⟨h.name_eq, h.time_eq, h.step_eq, h.memory, h.tool⟩

theorem log_ends (h : Calm name time step w) (clipboard : Clipboard) (progress : Progress)
    (entry : Log.Record) :
    Ends ((ports clipboard progress).log entry) w fun _ after => Calm name time step after :=
  Ends.modify ⟨h.name_eq, h.time_eq, h.step_eq, h.memory, h.tool⟩

end Calls

/-! ### The run -/

section Run

variable {progress : Progress} (clipboard : Clipboard) (hshows : Shows clipboard.name progress)
  (s : Settings) {w : World} {time next : Moment} {step : Int}

include hshows

theorem attempt_ends (h : Calm clipboard.name time step w)
    (hlater : World.later time step = .ok next) (index : Nat) (report : Report) :
    Ends (Run.attempt (ports clipboard progress) s.label index report) w
      fun _ after => Calm clipboard.name next step after := by
  refine Ends.bind (tell_ends hshows h _ _ (.inl rfl)) fun _ told htold => ?_
  refine Ends.bind (now_ends htold hlater) fun _ looked hlooked => ?_
  refine Ends.bind (copy_ends hlooked _) fun result written ⟨hwritten, hnames⟩ => ?_
  cases result with
  | ok done => exact Ends.bind (log_ends hwritten ..) fun _ _ hafter => Ends.pure hafter
  | error error =>
    refine Ends.bind (log_ends hwritten ..) fun _ logged hlogged => ?_
    exact Ends.bind (tell_ends hshows hlogged _ _ (hnames error rfl)) fun _ _ hafter =>
      Ends.pure hafter

omit hshows in
theorem pause_ends (h : Calm clipboard.name time step w) (index : Nat)
    (hpause : World.afterPause s index time = .ok next) {α : Type} {rest : Rehearsal α}
    {P : α → World → Prop}
    (hrest : ∀ after, Calm clipboard.name next step after → Ends rest after P) :
    Ends (do if Run.pausesAfter s index then (ports clipboard progress).sleep s.delay
             rest) w P := by
  unfold World.afterPause at hpause
  cases hpauses : Run.pausesAfter s index with
  | true =>
    rw [hpauses, if_pos rfl] at hpause
    obtain ⟨micros, hmicros, hlater⟩ := Fallible.bind_eq_ok_iff.mp hpause
    exact Ends.bind (sleep_ends h hmicros hlater) fun _ => hrest
  | false =>
    rw [hpauses, if_neg Bool.false_ne_true] at hpause
    obtain rfl := Except.ok.inj hpause
    exact hrest w h

/-- The loop, by induction on the number of events that remain. Wherever it ends, be it at a stop,
there is still a move of the clock for the look at it after the events: the next one of the full
run. -/
theorem events_ends (remaining index : Nat) (report : Report) {last : Moment}
    (h : Calm clipboard.name time step w)
    (hlasts : (World.afterEvents step s remaining index time >>= (World.later · step)) = .ok last) :
    Ends (Run.events (ports clipboard progress) s remaining index report) w fun _ after =>
      ∃ time next, Calm clipboard.name time step after ∧ World.later time step = .ok next := by
  induction remaining generalizing index report w time with
  | zero => exact Ends.pure ⟨time, last, h, hlasts⟩
  | succ remaining ih =>
    obtain ⟨final, hevents, hfinal⟩ := Fallible.bind_eq_ok_iff.mp hlasts
    obtain ⟨looked, hlooked, hevents⟩ := Fallible.bind_eq_ok_iff.mp hevents
    obtain ⟨paused, hpaused, hevents⟩ := Fallible.bind_eq_ok_iff.mp hevents
    have hstopped : Ends (ports clipboard progress).stopped w
        fun _ after => Calm clipboard.name time step after := Ends.get_bind (Ends.pure h)
    refine Ends.bind hstopped fun told asked hasked => ?_
    cases told with
    | true =>
      -- The look after the events takes the place of the look of the event that is not begun.
      exact Ends.bind (log_ends hasked ..) fun _ _ hlogged =>
        Ends.pure ⟨time, looked, hlogged, hlooked⟩
    | false =>
      refine Ends.bind (attempt_ends clipboard hshows s hasked hlooked index report) ?_
      intro report attempted hattempted
      refine pause_ends clipboard s hattempted index hpaused fun after hafter => ?_
      exact ih (index + 1) report hafter (Fallible.bind_eq_ok_iff.mpr ⟨final, hevents, hfinal⟩)

omit hshows in
theorem lateStop_ends (h : Calm clipboard.name time step w) (report : Report) :
    Ends (Run.lateStop (ports clipboard progress) report) w
      fun _ after => Calm clipboard.name time step after := by
  unfold Run.lateStop
  split
  · exact Ends.pure h
  · have hstopped : Ends (ports clipboard progress).stopped w
        fun _ after => Calm clipboard.name time step after := Ends.get_bind (Ends.pure h)
    refine Ends.bind hstopped fun told asked hasked => ?_
    cases told with
    | true => exact Ends.bind (log_ends hasked ..) fun _ _ hlogged => Ends.pure hlogged
    | false => exact Ends.pure hasked

theorem run_ends (h : Calm clipboard.name time step w) {started finished last : Moment}
    (hstarted : World.later time step = .ok started)
    (hevents : World.afterEvents step s s.count 1 started = .ok finished)
    (hfinished : World.later finished step = .ok last) :
    Ends (run (ports clipboard progress) s) w fun _ _ => True := by
  refine Ends.bind (now_ends h hstarted) fun moment looked hlooked => ?_
  refine Ends.bind (tell_ends hshows hlooked _ _ (.inr rfl)) fun _ told htold => ?_
  refine Ends.bind (log_ends htold ..) fun _ logged hlogged => ?_
  have hlasts : (World.afterEvents step s s.count 1 started >>= (World.later · step)) = .ok last :=
    Fallible.bind_eq_ok_iff.mpr ⟨finished, hevents, hfinished⟩
  refine Ends.bind (events_ends clipboard hshows s s.count 1 _ hlogged hlasts) ?_
  rintro report after ⟨time, next, hafter, hnext⟩
  refine Ends.bind (lateStop_ends clipboard hafter report) fun report late hlate => ?_
  refine Ends.bind (now_ends hlate hnext) fun moment closed hclosed => ?_
  have hnames : NamesOnly clipboard.name
      (if report.cancelled then Notice.interrupted else .finished).named := by
    split <;> exact .inl rfl
  refine Ends.bind (tell_ends hshows hclosed _ _ hnames) fun _ told htold => ?_
  split
  · exact Ends.bind (log_ends htold ..) fun _ _ _ => Ends.pure trivial
  · exact Ends.pure trivial

end Run

end Rehearsal

/-- **A run does not crash** if its clipboard fails only in the way of writes, its clock lasts and
its notices can be shown: it ends in a report, at whatever point it is told to stop. -/
theorem World.rehearse_ends {w : World} {progress : Progress} {s : Settings}
    (hshows : Rehearsal.Shows w.clipboard.name progress) (hmemory : w.crashOn = [])
    (htool : Outcome.crashed ∉ w.outcomes) (hlasts : w.lasts s = true) :
    ∃ report after, w.rehearse progress s = (.ok report, after) := by
  cases hfinish : (do
      let time ← later w.time w.step
      let time ← afterEvents w.step s s.count 1 time
      later time w.step) with
  | error overflow =>
    rw [lasts, hfinish] at hlasts
    cases hlasts
  | ok last =>
    obtain ⟨started, hstarted, hfinish⟩ := Fallible.bind_eq_ok_iff.mp hfinish
    obtain ⟨finished, hevents, hfinished⟩ := Fallible.bind_eq_ok_iff.mp hfinish
    have hcalm : Rehearsal.Calm w.clipboard.name w.time w.step w :=
      ⟨rfl, rfl, rfl, hmemory, htool⟩
    obtain ⟨report, after, hrun, -⟩ :=
      Rehearsal.run_ends w.clipboard hshows s hcalm hstarted hevents hfinished
    exact ⟨report, after, hrun⟩

end ClipCadence
