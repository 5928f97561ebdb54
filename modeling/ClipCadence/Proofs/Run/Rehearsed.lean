import ClipCadence.Proofs.Run.Refusal
import ClipCadence.Run.Rehearsal

/-!
Rehearsals are runs among surroundings. The calls that a rehearsal makes change its world and
nothing else does, but for the log, which no call looks at. So a world says what its clock and its
clipboard answer after any calls, when the run has been told to stop by then, and which call makes
it crash; and a rehearsal is the run among these surroundings, cut at the first call that crashes.

Main statement: `World.rehearse_eq`, for all worlds. What is proved of runs among surroundings
holds of rehearsals through it.
-/

namespace ClipCadence

open Number Text Run

/-! ### What each call does to a world -/

namespace Rehearsal

theorem advance_run (w : World) (micros : Int) :
    (advance micros).run w =
      match World.later w.time micros with
      | .error overflow => (.error (.clock overflow), w)
      | .ok time => (.ok (), { w with time := time }) := by
  refine (Fallible.run_bind_ok (s := w) (a := w) rfl).trans ?_
  cases World.later w.time micros <;> rfl

theorem now_run (w : World) :
    now.run w =
      match World.later w.time w.step with
      | .error overflow => (.error (.clock overflow), w.record (.now w.time))
      | .ok time => (.ok w.time, { w.record (.now w.time) with time := time }) := by
  have hadvance := advance_run (w.record (.now w.time)) w.step
  have htime : (w.record (.now w.time)).time = w.time := rfl
  rw [htime] at hadvance
  refine (Fallible.run_bind_ok (s := w) (a := w) rfl).trans ?_
  refine (Fallible.run_bind_ok (a := ()) (t := w.record (.now w.time)) rfl).trans ?_
  refine (Fallible.run_bind_ok (a := w.record (.now w.time)) rfl).trans ?_
  cases hlater : World.later w.time w.step with
  | error overflow =>
    rw [hlater] at hadvance
    exact Fallible.run_bind_error hadvance
  | ok time =>
    rw [hlater] at hadvance
    exact Fallible.run_bind_ok hadvance

theorem sleep_run (w : World) (seconds : Binary64) :
    (sleep seconds).run w =
      match World.pause seconds >>= World.later w.time with
      | .error overflow => (.error (.clock overflow), w)
      | .ok time => (.ok (), { w with time := time }.record (.sleep seconds)) := by
  unfold sleep
  cases World.pause seconds with
  | error overflow => rfl
  | ok micros =>
    have hadvance := advance_run w micros
    show ((advance micros) >>= fun _ => record (.sleep seconds)).run w =
      match World.later w.time micros with
      | .error overflow => (.error (.clock overflow), w)
      | .ok time => (.ok (), { w with time := time }.record (.sleep seconds))
    cases hlater : World.later w.time micros with
    | error overflow =>
      rw [hlater] at hadvance
      exact Fallible.run_bind_error hadvance
    | ok time =>
      rw [hlater] at hadvance
      exact Fallible.run_bind_ok hadvance

theorem copy_run_memory {w : World} {memory : Memory} (h : w.clipboard = .memory memory)
    (text : String) :
    (copy text).run w =
      if w.crashOn.contains (memory.next : Int) then (.error .bug, w.record (.copy text))
      else (.ok (memory.copy text).1,
        { w.record (.copy text) with clipboard := .memory (memory.copy text).2 }) := by
  refine (Fallible.run_bind_ok (s := w) (a := w) rfl).trans ?_
  rw [h]
  refine (Fallible.run_bind_ok (a := ()) (t := w.record (.copy text)) rfl).trans ?_
  refine (Fallible.run_bind_ok (a := w.record (.copy text)) rfl).trans ?_
  have hcrash : (w.record (.copy text)).crashOn = w.crashOn := rfl
  rw [hcrash]
  split <;> rfl

theorem copy_run_tool {w : World} {tool : Tool} (h : w.clipboard = .tool tool) (text : String) :
    (copy text).run w =
      let started := { w.record (.start (tool.call text)) with outcomes := w.outcomes.tail }
      match w.outcomes.head? with
      | some .crashed => (.error .bug, started)
      | some (.failed failure) => (.ok (.error (tool.error failure)), started)
      | _ => (.ok (.ok ()), started) := by
  refine (Fallible.run_bind_ok (s := w) (a := w) rfl).trans ?_
  rw [h]
  let started := { w.record (.start (tool.call text)) with outcomes := w.outcomes.tail }
  refine (Fallible.run_bind_ok (a := ()) (t := w.record (.start (tool.call text))) rfl).trans ?_
  refine (Fallible.run_bind_ok (a := w.record (.start (tool.call text))) rfl).trans ?_
  refine (Fallible.run_bind_ok (a := ()) (t := started) rfl).trans ?_
  have houtcomes : (w.record (.start (tool.call text))).outcomes = w.outcomes := rfl
  rw [houtcomes]
  rcases w.outcomes.head? with _ | _ | _ | _ <;> rfl

theorem tell_run (progress : Progress) (w : World) (notice : Notice) (report : Report) :
    (tell progress notice report).run w =
      match progress with
      | .recorded => (.ok (), w.record (.tell notice report))
      | .printed lines =>
        match lines notice report with
        | .error error => (.error (.markup error), w)
        | .ok lines => (.ok (), { w with printed := w.printed ++ lines }) := by
  cases progress with
  | recorded => rfl
  | printed lines =>
    unfold tell
    dsimp only
    cases lines notice report <;> rfl

end Rehearsal

/-! ### The world after some calls -/

namespace World

/-- Whether a call crashes in a world, and the world after it. -/
def make (progress : Progress) (w : World) (call : Exchange) : Except Crash Unit × World :=
  match call with
  | .now _ => forget (Rehearsal.now.run w)
  | .sleep seconds => forget ((Rehearsal.sleep seconds).run w)
  | .copy text _ => forget ((Rehearsal.copy text).run w)
  | .tell notice report => forget ((Rehearsal.tell progress notice report).run w)
where
  forget {α : Type} (ending : Except Crash α × World) : Except Crash Unit × World :=
    (ending.1.map fun _ => (), ending.2)

section Make

variable (progress : Progress) {w : World}

theorem make_now (w : World) (moment : Moment) :
    w.make progress (.now moment) =
      match later w.time w.step with
      | .error overflow => (.error (.clock overflow), w.record (.now w.time))
      | .ok time => (.ok (), { w.record (.now w.time) with time := time }) := by
  rw [make, Rehearsal.now_run]
  cases later w.time w.step <;> rfl

theorem make_sleep (w : World) (seconds : Binary64) :
    w.make progress (.sleep seconds) =
      match pause seconds >>= later w.time with
      | .error overflow => (.error (.clock overflow), w)
      | .ok time => (.ok (), { w with time := time }.record (.sleep seconds)) := by
  rw [make, Rehearsal.sleep_run]
  cases pause seconds >>= later w.time <;> rfl

theorem make_copy_memory {memory : Memory} (h : w.clipboard = .memory memory) (text : String)
    (result : Except CopyError Unit) :
    w.make progress (.copy text result) =
      if w.crashOn.contains (memory.next : Int) then (.error .bug, w.record (.copy text))
      else (.ok (), { w.record (.copy text) with clipboard := .memory (memory.copy text).2 }) := by
  rw [make, Rehearsal.copy_run_memory h]
  split <;> rfl

theorem make_copy_tool {tool : Tool} (h : w.clipboard = .tool tool) (text : String)
    (result : Except CopyError Unit) :
    w.make progress (.copy text result) =
      (if w.outcomes.head? = some .crashed then .error .bug else .ok (),
        { w.record (.start (tool.call text)) with outcomes := w.outcomes.tail }) := by
  rw [make, Rehearsal.copy_run_tool h]
  rcases w.outcomes.head? with _ | _ | _ | _ <;> rfl

theorem make_tell (w : World) (notice : Notice) (report : Report) :
    w.make progress (.tell notice report) =
      match progress with
      | .recorded => (.ok (), w.record (.tell notice report))
      | .printed lines =>
        match lines notice report with
        | .error error => (.error (.markup error), w)
        | .ok lines => (.ok (), { w with printed := w.printed ++ lines }) := by
  rw [make, Rehearsal.tell_run]
  cases progress with
  | recorded => rfl
  | printed lines =>
    dsimp only
    cases lines notice report <;> rfl

end Make

/-- The world after some calls. -/
def after (progress : Progress) (w : World) (calls : History) : World :=
  calls.foldl (fun w call => (w.make progress call).2) w

/-- A call that a world crashes at. -/
structure Breakdown where
  call : Exchange
  crash : Crash
  deriving DecidableEq

/-- How a world breaks down at a call that is made in it after some others, if it does. -/
def refusal (progress : Progress) (w : World) : Refusal Breakdown := fun past call =>
  match ((w.after progress past).make progress call).1 with
  | .ok _ => none
  | .error crash => some ⟨call, crash⟩

/-- What the clipboard of a world answers to a write, unless it crashes. -/
def answer (w : World) (text : String) : Except CopyError Unit :=
  match ((Rehearsal.copy text).run w).1 with
  | .ok result => result
  | .error _ => .ok ()

/-- The surroundings that a world makes. -/
def surroundings (progress : Progress) (w : World) : Surroundings where
  clipboard := w.clipboard.name
  now past := (w.after progress past).time
  copy past text := (w.after progress past).answer text
  stops past := (w.after progress past).stopped

theorem after_append (progress : Progress) (w : World) (first second : History) :
    w.after progress (first ++ second) = (w.after progress first).after progress second :=
  List.foldl_append

theorem after_concat (progress : Progress) (w : World) (past : History) (call : Exchange) :
    w.after progress (past ++ [call]) = ((w.after progress past).make progress call).2 :=
  after_append progress w past [call]

/-! ### The log -/

def withLogs (w : World) (logs : List Log.Record) : World := { w with logs := logs }

end World

namespace Rehearsal

/-- An action that does the same whatever is in the log, and leaves the log alone. -/
def Deaf {α : Type} (action : Rehearsal α) : Prop :=
  ∀ w logs, action.run (w.withLogs logs) = ((action.run w).1, (action.run w).2.withLogs logs)

theorem now_deaf : Deaf now := by
  intro w logs
  rw [now_run, now_run]
  show (match World.later w.time w.step with
    | .error overflow => _
    | .ok time => _) = _
  cases World.later w.time w.step <;> rfl

theorem sleep_deaf (seconds : Binary64) : Deaf (sleep seconds) := by
  intro w logs
  rw [sleep_run, sleep_run]
  show (match World.pause seconds >>= World.later w.time with
    | .error overflow => _
    | .ok time => _) = _
  cases World.pause seconds >>= World.later w.time <;> rfl

theorem copy_deaf (text : String) : Deaf (copy text) := by
  intro w logs
  cases hclipboard : w.clipboard with
  | memory memory =>
    rw [copy_run_memory hclipboard, copy_run_memory (w := w.withLogs logs) hclipboard]
    show (if w.crashOn.contains (memory.next : Int) then _ else _) = _
    split <;> rfl
  | tool tool =>
    rw [copy_run_tool hclipboard, copy_run_tool (w := w.withLogs logs) hclipboard]
    show (match w.outcomes.head? with
      | some .crashed => _
      | some (.failed failure) => _
      | _ => _) = _
    rcases w.outcomes.head? with _ | _ | _ | _ <;> rfl

theorem tell_deaf (progress : Progress) (notice : Notice) (report : Report) :
    Deaf (tell progress notice report) := by
  intro w logs
  rw [tell_run, tell_run]
  cases progress with
  | recorded => rfl
  | printed lines =>
    dsimp only
    cases lines notice report <;> rfl

end Rehearsal

/-! ### Telling a rehearsal to stop -/

namespace World

variable (progress : Progress) (w : World)

theorem stopped_record (h : w.stopped = true) (call : Call) : (w.record call).stopped = true := by
  show (w.stopped || _) = true
  rw [h, Bool.true_or]

/-- A call does not take back that the run has been told to stop. -/
theorem stopped_make (h : w.stopped = true) (call : Exchange) :
    (w.make progress call).2.stopped = true := by
  cases call with
  | now moment =>
    rw [make_now]
    cases later w.time w.step <;> exact w.stopped_record h _
  | sleep seconds =>
    rw [make_sleep]
    cases pause seconds >>= later w.time with
    | error overflow => exact h
    | ok time => exact stopped_record { w with time := time } h _
  | copy text result =>
    cases hclipboard : w.clipboard with
    | memory memory =>
      rw [make_copy_memory progress hclipboard]
      split <;> exact w.stopped_record h _
    | tool tool =>
      rw [make_copy_tool progress hclipboard]
      exact w.stopped_record h _
  | tell notice report =>
    rw [make_tell]
    cases progress with
    | recorded => exact w.stopped_record h _
    | printed lines =>
      dsimp only
      cases lines notice report <;> exact h

theorem stopped_after (h : w.stopped = true) (calls : History) :
    (w.after progress calls).stopped = true := by
  induction calls generalizing w with
  | nil => exact h
  | cons call rest ih => exact ih _ (w.stopped_make progress h call)

theorem told_eq (past : History) :
    (w.surroundings progress).told past = (w.after progress past).stopped := by
  rw [Bool.eq_iff_iff, Surroundings.told, List.any_eq_true]
  constructor
  · rintro ⟨earlier, hearlier, hstopped⟩
    obtain ⟨rest, rfl⟩ := List.mem_inits _ _ |>.mp hearlier
    rw [after_append]
    exact stopped_after progress _ hstopped rest
  · exact fun hstopped => ⟨past, (List.mem_inits _ _).mpr (List.prefix_refl past), hstopped⟩

end World

/-! ### Rehearsals follow runs -/

section Follows

variable (progress : Progress) (start : World)

/-- A world is, but for its log, the one after some calls. -/
def World.Tracks (past : History) (w : World) : Prop :=
  ∃ logs, w = (start.after progress past).withLogs logs

/-- A world at the end of an action that made some calls: the one after these, and if the action
crashed, after the call that it crashed at. -/
def World.Reached {α : Type} (past : History) : Except World.Breakdown α → World → Prop
  | .ok _, w => start.Tracks progress past w
  | .error breakdown, w => start.Tracks progress (past ++ [breakdown.call]) w

/-- An action of a rehearsal that has the same result as one among the surroundings of its world,
and makes the same calls. -/
def Rehearsal.Follows {α : Type} (x : Performance World.Breakdown α) (y : Rehearsal α) : Prop :=
  ∀ past w, start.Tracks progress past w →
    (y.run w).1 = (x.run past).1.mapError World.Breakdown.crash ∧
      start.Reached progress (x.run past).2 (x.run past).1 (y.run w).2

variable {progress start}

namespace Rehearsal

theorem Follows.bind {α β : Type} {x : Performance World.Breakdown α} {y : Rehearsal α}
    {f : α → Performance World.Breakdown β} {g : α → Rehearsal β}
    (hxy : Follows progress start x y) (hfg : ∀ a, Follows progress start (f a) (g a)) :
    Follows progress start (x >>= f) (y >>= g) := by
  intro past w htracks
  obtain ⟨hresult, hreached⟩ := hxy past w htracks
  rcases hx : x.run past with ⟨result, past'⟩
  rcases hy : y.run w with ⟨result', w'⟩
  rw [hx, hy] at hresult hreached
  obtain rfl : result' = result.mapError World.Breakdown.crash := hresult
  cases result with
  | error breakdown =>
    rw [Fallible.run_bind_error hx, Fallible.run_bind_error hy]
    exact ⟨rfl, hreached⟩
  | ok a =>
    rw [Fallible.run_bind_ok hx, Fallible.run_bind_ok hy]
    exact hfg a past' w' hreached

theorem follows_quiet {α : Type} (value : History → α) {action : Rehearsal α}
    (h : ∀ past w, start.Tracks progress past w →
      ∃ after, action.run w = (.ok (value past), after) ∧ start.Tracks progress past after) :
    Follows progress start (ExceptT.mk fun past => (.ok (value past), past)) action := by
  intro past w htracks
  obtain ⟨after, hrun, hafter⟩ := h past w htracks
  rw [hrun]
  exact ⟨rfl, hafter⟩

/-- One call, in a rehearsal and among surroundings. -/
theorem follows_call {α : Type} {answer : History → α × Exchange} {action : Rehearsal α}
    (hdeaf : Deaf action)
    (hmake : ∀ past w, w.make progress (answer past).2 = World.make.forget (action.run w))
    (hvalue : ∀ past a, (action.run (start.after progress past)).1 = .ok a → a = (answer past).1) :
    Follows progress start (Surroundings.askFor (start.refusal progress) answer) action := by
  rintro past _ ⟨logs, rfl⟩
  rw [hdeaf]
  have hworld : (start.after progress (past ++ [(answer past).2])) =
      (action.run (start.after progress past)).2 := by
    rw [World.after_concat, hmake]
    rfl
  have hrefusal : start.refusal progress past (answer past).2 =
      match (action.run (start.after progress past)).1 with
      | .ok _ => none
      | .error crash => some ⟨(answer past).2, crash⟩ := by
    rw [World.refusal, hmake, World.make.forget]
    cases (action.run (start.after progress past)).1 <;> rfl
  simp only [Surroundings.askFor, ask, ExceptT.run_mk]
  cases hresult : (action.run (start.after progress past)).1 with
  | ok a =>
    rw [hresult] at hrefusal
    obtain rfl := hvalue past a hresult
    rw [hrefusal]
    exact ⟨rfl, logs, by rw [hworld]⟩
  | error crash =>
    rw [hresult] at hrefusal
    rw [hrefusal]
    exact ⟨rfl, logs, by rw [hworld]⟩

def following (progress : Progress) (start : World) :
    Simulation (Performance World.Breakdown) Rehearsal where
  Rel := Follows progress start
  pure _ _ _ htracks := ⟨rfl, htracks⟩
  bind := Follows.bind

theorem following_links (progress : Progress) (start : World) :
    (following progress start).Links
      ((start.surroundings progress).portsUnder (start.refusal progress))
      (ports start.clipboard progress) where
  clipboard := rfl
  now := by
    refine follows_call now_deaf (fun _ _ => rfl) fun past moment h => ?_
    let there := start.after progress past
    change (now.run there).1 = .ok moment at h
    rw [now_run] at h
    cases hlater : World.later there.time there.step with
    | error overflow => simp [hlater] at h
    | ok time =>
      rw [hlater] at h
      exact (Except.ok.inj h).symm
  sleep seconds := follows_call (sleep_deaf seconds) (fun _ _ => rfl) fun _ _ _ => rfl
  copy text := by
    refine follows_call (copy_deaf text) (fun _ _ => rfl) fun past result h => ?_
    change ((copy text).run (start.after progress past)).1 = .ok result at h
    show result = (start.after progress past).answer text
    rw [World.answer, h]
  stopped := by
    refine follows_quiet (start.surroundings progress).told fun past w htracks =>
      ⟨w, ?_, htracks⟩
    obtain ⟨logs, rfl⟩ := htracks
    rw [World.told_eq]
    rfl
  tell notice report :=
    follows_call (tell_deaf progress notice report) (fun _ _ => rfl) fun _ _ _ => rfl
  log record := by
    refine follows_quiet (fun _ => ()) fun past w htracks => ⟨_, rfl, ?_⟩
    obtain ⟨logs, rfl⟩ := htracks
    exact ⟨logs ++ [record], rfl⟩

end Rehearsal

end Follows

/-- **A rehearsal is a run among the surroundings of its world**, cut at the first call that
crashes: it has the same result, and leaves, but for the log, the world after its calls. -/
theorem World.rehearse_eq (w : World) (progress : Progress) (s : Settings) :
    let ending := (w.surroundings progress).performUnder (w.refusal progress) s
    (w.rehearse progress s).1 = ending.1.mapError Breakdown.crash ∧
      w.Reached progress ending.2 ending.1 (w.rehearse progress s).2 :=
  Simulation.run (Rehearsal.following_links progress w) s [] w ⟨w.logs, rfl⟩

end ClipCadence
