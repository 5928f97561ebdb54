import ClipCadence.Run.Loop

/-!
Runs through two sets of ports. A run is one program for all monads, so what relates the ports
relates the runs. A simulation is a relation between the actions of two monads that holds of actions
that do nothing and is kept when related actions are put one after the other. If it holds of each
pair of ports, it holds of the two runs; whoever compares two kinds of runs has to look at their
ports only.

Main statement: `Simulation.run`. It goes through the program once, with a lemma for each part and,
for the events, by induction on the number of those that remain.
-/

namespace ClipCadence.Run

open Number Text

structure Simulation (m n : Type → Type) [Monad m] [Monad n] where
  Rel : {α : Type} → m α → n α → Prop
  pure {α : Type} (a : α) : Rel (Pure.pure a : m α) (Pure.pure a : n α)
  bind {α β : Type} {x : m α} {y : n α} {f : α → m β} {g : α → n β} :
    Rel x y → (∀ a, Rel (f a) (g a)) → Rel (x >>= f) (y >>= g)

namespace Simulation

variable {m n : Type → Type} [Monad m] [Monad n]

/-- Ports that are related one by one. -/
structure Links (sim : Simulation m n) (first : Ports m) (second : Ports n) : Prop where
  clipboard : first.clipboard = second.clipboard
  now : sim.Rel first.now second.now
  sleep (seconds : Binary64) : sim.Rel (first.sleep seconds) (second.sleep seconds)
  copy (text : String) : sim.Rel (first.copy text) (second.copy text)
  stopped : sim.Rel first.stopped second.stopped
  tell (notice : Notice) (report : Report) :
    sim.Rel (first.tell notice report) (second.tell notice report)
  log (record : Log.Record) : sim.Rel (first.log record) (second.log record)

section Parts

variable {sim : Simulation m n} {first : Ports m} {second : Ports n}
  (h : sim.Links first second)

include h

theorem attempt (label : String) (index : Nat) (report : Report) :
    sim.Rel (Run.attempt first label index report) (Run.attempt second label index report) := by
  refine sim.bind (h.tell _ _) fun _ => sim.bind h.now fun moment => ?_
  refine sim.bind (h.copy _) fun result => ?_
  cases result with
  | ok done => exact sim.bind (h.log _) fun _ => sim.pure _
  | error error =>
    exact sim.bind (h.log _) fun _ => sim.bind (h.tell _ _) fun _ => sim.pure _

theorem events (s : Settings) (remaining index : Nat) (report : Report) :
    sim.Rel (Run.events first s remaining index report)
      (Run.events second s remaining index report) := by
  induction remaining generalizing index report with
  | zero => exact sim.pure _
  | succ remaining ih =>
    refine sim.bind h.stopped fun stopped => ?_
    cases stopped with
    | true => exact sim.bind (h.log _) fun _ => sim.pure _
    | false =>
      refine sim.bind (attempt h s.label index report) fun report => ?_
      cases hpause : pausesAfter s index with
      | true =>
        rw [if_pos rfl, if_pos rfl]
        exact sim.bind (h.sleep _) fun _ => ih (index + 1) report
      | false => exact ih (index + 1) report

theorem lateStop (report : Report) :
    sim.Rel (Run.lateStop first report) (Run.lateStop second report) := by
  unfold Run.lateStop
  split
  · exact sim.pure _
  · refine sim.bind h.stopped fun stopped => ?_
    cases stopped with
    | true => exact sim.bind (h.log _) fun _ => sim.pure _
    | false => exact sim.pure _

/-- **Related ports make related runs.** -/
theorem run (s : Settings) :
    sim.Rel (ClipCadence.run first s) (ClipCadence.run second s) := by
  unfold ClipCadence.run
  rw [h.clipboard]
  refine sim.bind h.now fun started => sim.bind (h.tell _ _) fun _ => ?_
  refine sim.bind (h.log _) fun _ => sim.bind (events h s s.count 1 _) fun report => ?_
  refine sim.bind (lateStop h report) fun report => sim.bind h.now fun finished => ?_
  refine sim.bind (h.tell _ _) fun _ => ?_
  split
  · exact sim.bind (h.log _) fun _ => sim.pure _
  · exact sim.pure _

end Parts

end Simulation

end ClipCadence.Run
