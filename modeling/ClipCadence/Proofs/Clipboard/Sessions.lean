import ClipCadence.Proofs.Clipboard.Copies
import ClipCadence.Proofs.Clipboard.Starts

/-!
Sessions while the machine changes. The clipboard of a session is asked for again and again, by
itself or for a run, and between two of these times programs may be installed or removed and the
display may change. `Session.Scene` is what has come of it so far.

Main statement: `session_keeps_clipboard`. A dry run has its memory from the start, whatever the
machine. Any other session tries anew each time it is asked until it has found a tool, and keeps
the first one.
-/

namespace ClipCadence

open Number Text Run

namespace Session

/-! ### What happens to a session -/

inductive Step where
  /-- The machine becomes another one. -/
  | change (machine : Machine)
  /-- The session is asked for its clipboard. -/
  | access
  /-- A run over the clipboard of the session, with any settings and in any world. -/
  | run (w : World) (progress : Progress) (settings : Settings)

/-- A run that has been made. -/
structure Rehearsed where
  world : World
  progress : Progress
  settings : Settings
  result : Except Crash Report
  calls : List Call

structure Scene where
  machine : Machine
  session : Session
  /-- What came of each run: it is not made if the session finds no clipboard. -/
  runs : List (Except NotFound Rehearsed)

namespace Scene

def after (scene : Scene) : Step → Scene
  | .change machine => { scene with machine := machine }
  | .access =>
    match scene.session.access scene.machine with
    | .error _ => scene
    | .ok (_, session, _) => { scene with session := session }
  | .run w progress settings =>
    match scene.session.access scene.machine with
    | .error error => { scene with runs := scene.runs ++ [.error error] }
    | .ok (clipboard, session, _) =>
      let ending := (w.around clipboard).rehearse progress settings
      { scene with
        session := { session with clipboard := some ending.2.clipboard }
        runs := scene.runs ++ [.ok ⟨w, progress, settings, ending.1, ending.2.calls⟩] }

def play (scene : Scene) (steps : List Step) : Scene := steps.foldl after scene

/-- A session that has just started, on a machine. -/
def first (machine : Machine) (s : Settings) (dryRun : Bool) : Scene :=
  ⟨machine, .start s dryRun, []⟩

end Scene

/-! ### Sessions in memory -/

def copied (calls : List Call) : List String :=
  calls.filterMap fun
    | .copy text => some text
    | _ => none

/-- The texts that some runs have copied to memory, in order. -/
def copiedBy (runs : List (Except NotFound Rehearsed)) : List String :=
  runs.flatMap fun
    | .ok run => copied run.calls
    | .error _ => []

/-- A run that starts no tool: it copies the payloads of its first events to memory, and none of
the writes fails. -/
structure Rehearsed.Isolated (run : Rehearsed) : Prop where
  ne_bug : run.result ≠ .error .bug
  ends : Rehearsal.Shows (.ofString Memory.name) run.progress →
    Outcome.crashed ∉ run.world.outcomes → run.world.lasts run.settings = true →
      ∃ report, run.result = .ok report
  copies : ∃ moments,
    let events := Event.series run.settings.label moments
    deliveries run.calls = events.map (fun event => ⟨some event.moment, .copy event.payload⟩) ∧
      ∀ report, run.result = .ok report → report.attempted = events.length ∧ report.failures = []

theorem copiedBy_append_ok (runs : List (Except NotFound Rehearsed)) (run : Rehearsed) :
    copiedBy (runs ++ [.ok run]) = copiedBy runs ++ copied run.calls := by
  simp [copiedBy]

theorem copied_deliveriesFrom (last : Option Moment) (calls : List Call) :
    copied ((deliveriesFrom last calls).map Delivery.call) = copied calls := by
  induction calls generalizing last with
  | nil => rfl
  | cons call rest ih =>
    cases call with
    | now moment => exact ih (some moment)
    | sleep | tell | start => exact ih last
    | copy text => exact congrArg (text :: ·) (ih last)

theorem copied_of_deliveries {calls : List Call} {events : List Event}
    (h : deliveries calls = events.map fun event => ⟨some event.moment, .copy event.payload⟩) :
    copied calls = events.map Event.payload := by
  rw [← copied_deliveriesFrom none, ← deliveries, h, copied, List.map_map, List.filterMap_map]
  exact congrFun List.filterMap_eq_map events

/-- A scene whose session has a memory that holds what the runs have copied, and can be asked for
it on any machine. -/
structure Scene.InMemory (scene : Scene) : Prop where
  access : ∃ memory, memory.failOn = [] ∧ memory.history = copiedBy scene.runs ∧
    ∀ machine, ∃ session, scene.session.access machine = .ok (.memory memory, session, [])
  isolated : ∀ run ∈ scene.runs, ∃ rehearsed, run = .ok rehearsed ∧ rehearsed.Isolated

theorem Scene.inMemory_first (machine : Machine) {s : Settings} {dryRun : Bool}
    (h : dryRun = true ∨ s.backend = some (.ofString Memory.name)) :
    (first machine s dryRun).InMemory := by
  have hdry : (start s dryRun).dryRun = true := by
    rw [start, Bool.or_eq_true, decide_eq_true_eq]
    exact h
  let session : Session := { start s dryRun with clipboard := some (.memory (.empty [])) }
  have haccess (later : Machine) :
      (start s dryRun).access later = .ok (.memory (.empty []), session, []) := by
    show (choose s (start s dryRun).dryRun later).map _ = _
    rw [choose, if_pos hdry]
    rfl
  exact ⟨⟨.empty [], rfl, rfl, fun later => ⟨session, haccess later⟩⟩,
    fun run hrun => absurd hrun List.not_mem_nil⟩

theorem Scene.InMemory.after {scene : Scene} (h : scene.InMemory) (step : Step) :
    (scene.after step).InMemory := by
  obtain ⟨⟨memory, hreliable, hhistory, haccess⟩, hisolated⟩ := h
  obtain ⟨session, hnow⟩ := haccess scene.machine
  cases step with
  | change machine => exact ⟨⟨memory, hreliable, hhistory, haccess⟩, hisolated⟩
  | access =>
    rw [Scene.after, hnow]
    refine ⟨⟨memory, hreliable, hhistory, fun later => ⟨session, ?_⟩⟩, hisolated⟩
    exact access_of_clipboard (clipboard_of_access hnow) later
  | run w progress s =>
    rw [Scene.after, hnow]
    obtain ⟨moments, hdeliveries, hclipboard, hreport⟩ :=
      World.rehearse_in_memory progress hreliable w s
    let after := memory.copyAll ((Event.series s.label moments).map Event.payload)
    refine ⟨⟨after, ?reliable, ?history, fun later => ⟨_, access_of_clipboard ?clipboard later⟩⟩,
      fun run hrun => ?isolated⟩
    case reliable => rwa [Memory.failOn_copyAll]
    case history =>
      rw [Memory.history_copyAll hreliable, hhistory, copiedBy_append_ok,
        ← copied_of_deliveries hdeliveries]
    case clipboard => exact congrArg some hclipboard
    case isolated =>
      rcases List.mem_append.mp hrun with hrun | hrun
      · exact hisolated run hrun
      · refine ⟨_, List.mem_singleton.mp hrun, ?_, fun hshows hknown hlasts => ?_,
          moments, hdeliveries, hreport⟩
        · exact World.rehearse_ne_bug_of_memory progress rfl rfl s
        · obtain ⟨report, last, hending⟩ :=
            World.rehearse_ends (w := w.around (.memory memory)) hshows rfl hknown hlasts
          exact ⟨report, congrArg Prod.fst hending⟩

theorem Scene.InMemory.play {scene : Scene} (h : scene.InMemory) (steps : List Step) :
    (scene.play steps).InMemory := by
  induction steps generalizing scene with
  | nil => exact h
  | cons step rest ih => exact ih (h.after step)

/-! ### Sessions with a tool -/

/-- The machines on which the clipboard of a session was asked for, in order. -/
def needs : Machine → List Step → List Machine
  | _, [] => []
  | _, .change machine :: rest => needs machine rest
  | machine, .access :: rest => machine :: needs machine rest
  | machine, .run .. :: rest => machine :: needs machine rest

/-- The tool for some settings on a machine, if there is one. -/
def tool? (s : Settings) (machine : Machine) : Option Tool :=
  (Tool.resolve s.backend s.command s.timeout machine).toOption.map Prod.fst

/-- A new session for some settings that has got a tool, if there is one. -/
def holding (s : Settings) (found : Option Tool) : Session :=
  { start s false with clipboard := found.map .tool }

section Holding

variable {s : Settings} (hdry : (start s false).dryRun = false)

include hdry in
theorem access_holding_none (machine : Machine) :
    (holding s none).access machine =
      (Tool.resolve s.backend s.command s.timeout machine).map fun (tool, logs) =>
        (.tool tool, holding s (some tool), logs) := by
  show (choose s (start s false).dryRun machine).map _ = _
  rw [choose, hdry, if_neg Bool.false_ne_true]
  cases Tool.resolve s.backend s.command s.timeout machine <;> rfl

theorem access_holding_some (tool : Tool) (machine : Machine) :
    (holding s (some tool)).access machine = .ok (.tool tool, holding s (some tool), []) :=
  access_of_clipboard rfl machine

include hdry in
/-- An access gives the tool that the session has, or else the one that is found now; if there is
none the session stays without. -/
theorem access_holding (found : Option Tool) (machine : Machine) :
    (∃ tool logs, found.or (tool? s machine) = some tool ∧
        (holding s found).access machine = .ok (.tool tool, holding s (some tool), logs)) ∨
      found.or (tool? s machine) = found ∧
        ∃ error, (holding s found).access machine = .error error := by
  cases found with
  | some tool => exact .inl ⟨tool, [], rfl, access_holding_some tool machine⟩
  | none =>
    rw [access_holding_none hdry, tool?, Option.none_or]
    rcases Tool.resolve s.backend s.command s.timeout machine with error | ⟨tool, logs⟩
    · exact .inr ⟨rfl, error, rfl⟩
    · exact .inl ⟨tool, logs, rfl, rfl⟩

/-- What is needed at the first step and after it. -/
theorem needs_cons (scene : Scene) (step : Step) (rest : List Step) :
    needs scene.machine (step :: rest) =
      needs scene.machine [step] ++ needs (scene.after step).machine rest := by
  cases step with
  | change machine => rfl
  | access =>
    rw [Scene.after]
    cases scene.session.access scene.machine <;> rfl
  | run w progress settings =>
    rw [Scene.after]
    cases scene.session.access scene.machine <;> rfl

include hdry in
theorem after_holding {scene : Scene} {found : Option Tool} (h : scene.session = holding s found)
    (step : Step) :
    (scene.after step).session =
      holding s (found.or ((needs scene.machine [step]).findSome? (tool? s))) := by
  have hone : [scene.machine].findSome? (tool? s) = tool? s scene.machine :=
    List.findSome?_singleton
  have haccess := access_holding hdry found scene.machine
  rw [← h] at haccess
  cases step with
  | change machine => rw [needs, needs, List.findSome?_nil, Option.or_none, Scene.after, h]
  | access =>
    rw [needs, needs, hone, Scene.after]
    rcases haccess with ⟨tool, logs, hfound, hok⟩ | ⟨hfound, error, herror⟩
    · rw [hok, hfound]
    · rw [herror, hfound]
      exact h
  | run w progress settings =>
    rw [needs, needs, hone, Scene.after]
    rcases haccess with ⟨tool, logs, hfound, hok⟩ | ⟨hfound, error, herror⟩
    · rw [hok, hfound]
      dsimp only
      rw [World.clipboard_rehearse_tool progress (w := w.around (.tool tool)) rfl settings]
      rfl
    · rw [herror, hfound]
      exact h

include hdry in
theorem play_holding {scene : Scene} {found : Option Tool} (h : scene.session = holding s found)
    (steps : List Step) :
    (scene.play steps).session =
      holding s (found.or ((needs scene.machine steps).findSome? (tool? s))) := by
  induction steps generalizing scene found with
  | nil => rw [needs, List.findSome?_nil, Option.or_none, ← h, Scene.play, List.foldl_nil]
  | cons step rest ih =>
    rw [needs_cons, List.findSome?_append, ← Option.or_assoc]
    exact ih (after_holding hdry h step)

end Holding

end Session

/-- **What a session does with its clipboard**, however often it is asked for it, whatever runs are
made over it and however the machine changes. A dry run, or a session whose settings name memory
as the backend, has a memory at every access, also if the settings give a command or nothing is
installed: all runs write to it only, none of their writes fails, and it holds what they have
copied, in order. In any other session an access that finds no tool leaves the session as it was,
so that the next one looks at the machine as it then is; from the first access that finds a tool
on, every access gives this tool, and nothing else of the machines counts. -/
theorem session_keeps_clipboard (machine : Machine) (s : Settings) (dryRun : Bool)
    (steps : List Session.Step) (later : Machine) :
    let scene := (Session.Scene.first machine s dryRun).play steps
    let inMemory := dryRun = true ∨ s.backend = some (.ofString Memory.name)
    (inMemory →
      (∃ memory session, scene.session.access later = .ok (.memory memory, session, []) ∧
          memory.history = Session.copiedBy scene.runs) ∧
        ∀ run ∈ scene.runs, ∃ rehearsed, run = .ok rehearsed ∧ rehearsed.Isolated) ∧
      (¬inMemory →
        match (Session.needs machine steps).findSome? (Session.tool? s) with
        | some tool => scene.session.access later = .ok (.tool tool, scene.session, [])
        | none =>
          scene.session = .start s dryRun ∧
            scene.session.access later =
              (Tool.resolve s.backend s.command s.timeout later).map fun (tool, logs) =>
                (.tool tool, { scene.session with clipboard := some (.tool tool) }, logs)) := by
  intro scene inMemory
  refine ⟨fun hmemory => ?memory, fun htool => ?tool⟩
  case memory =>
    have hscene := (Session.Scene.inMemory_first machine hmemory).play steps
    obtain ⟨⟨memory, -, hhistory, haccess⟩, hisolated⟩ := hscene
    obtain ⟨session, hsession⟩ := haccess later
    exact ⟨⟨memory, session, hsession, hhistory⟩, hisolated⟩
  case tool =>
    obtain ⟨hdryRun, hbackend⟩ := not_or.mp htool
    obtain rfl : dryRun = false := Bool.of_not_eq_true hdryRun
    have hdry : (Session.start s false).dryRun = false := decide_eq_false hbackend
    have hfirst : (Session.Scene.first machine s false).session = Session.holding s none := rfl
    have hsession : scene.session =
        Session.holding s ((Session.needs machine steps).findSome? (Session.tool? s)) :=
      Session.play_holding hdry hfirst steps
    cases hfound : (Session.needs machine steps).findSome? (Session.tool? s) with
    | some tool =>
      rw [hfound] at hsession
      rw [hsession]
      exact Session.access_holding_some tool later
    | none =>
      rw [hfound] at hsession
      rw [hsession]
      exact ⟨rfl, Session.access_holding_none hdry later⟩

/-- The first machine with a tool decides, though a later one has a tool that comes before it. -/
example :
    let bare : Machine := ⟨"linux", some "wayland-0", []⟩
    let plain : Machine := { bare with installed := [.ofString "xclip"] }
    let full : Machine := { bare with installed := [.ofString "xclip", .ofString "wl-copy"] }
    ((Session.needs bare [.access, .change plain, .access, .change full, .access]).findSome?
      (Session.tool? Settings.defaults)).map Tool.name = some (.ofString "xclip") := by
  decide

end ClipCadence
