import ClipCadence.Run.Loop
import Mathlib.Data.List.Infix

/-!
Runs among arbitrary surroundings. What a clock and a clipboard answer may depend on all that has
happened before, so surroundings are functions of the history of a run: the list of the calls made
so far, each with its answer. A run among surroundings keeps that history as its state, and the
history it leaves is the list of its calls, in order.

Surroundings also say at which of the calls the run is told to stop. Once told it stays told:
`Surroundings.told` looks at every history that has been passed through.

The second half of the module reads a history: which writes were made, which pauses, and which
events were begun.
-/

namespace ClipCadence.Run

open Number Text

/-- A call of a run to its surroundings, with the answer. -/
inductive Exchange where
  | now (moment : Moment)
  | sleep (seconds : Binary64)
  | copy (text : String) (result : Except CopyError Unit)
  | tell (notice : Notice) (report : Report)
  deriving DecidableEq

abbrev History := List Exchange

/-! ### Surroundings -/

structure Surroundings where
  clipboard : RawText
  now : History → Moment
  copy : History → String → Except CopyError Unit
  /-- Whether the run is told to stop during the last call of a history, or before the run if the
  history is empty. -/
  stops : History → Bool

namespace Surroundings

/-- Whether the run has been told to stop by the end of a history. -/
def told (env : Surroundings) (history : History) : Bool := history.inits.any env.stops

def ports (env : Surroundings) : Ports (StateM History) where
  clipboard := env.clipboard
  now := modifyGet fun history => (env.now history, history ++ [.now (env.now history)])
  sleep seconds := modify (· ++ [.sleep seconds])
  copy text := modifyGet fun history =>
    (env.copy history text, history ++ [.copy text (env.copy history text)])
  stopped := return env.told (← get)
  tell notice report := modify (· ++ [.tell notice report])
  log _ := return

/-- The report of a run and the calls it made. -/
def perform (env : Surroundings) (s : Settings) : Report × History :=
  (ClipCadence.run env.ports s).run []

def report (env : Surroundings) (s : Settings) : Report := (env.perform s).1

def history (env : Surroundings) (s : Settings) : History := (env.perform s).2

theorem told_of_isPrefix (env : Surroundings) {earlier later : History} (h : earlier <+: later)
    (ht : env.told earlier = true) : env.told later = true := by
  simp only [told, List.any_eq_true, List.mem_inits] at ht ⊢
  obtain ⟨moment, hm, hs⟩ := ht
  exact ⟨moment, hm.trans h, hs⟩

end Surroundings

/-! ### Properties along a history -/

/-- A property of every call of a history, each seen with all that was there before it. -/
def Along (P : History → Exchange → Prop) : (past : History) → History → Prop
  | _, [] => True
  | past, call :: rest => P past call ∧ Along P (past ++ [call]) rest

section Along

variable {P : History → Exchange → Prop}

@[simp] theorem along_nil (past : History) : Along P past [] := trivial

@[simp] theorem along_cons (past : History) (call : Exchange) (rest : History) :
    Along P past (call :: rest) ↔ P past call ∧ Along P (past ++ [call]) rest := Iff.rfl

@[simp] theorem along_append (past first second : History) :
    Along P past (first ++ second) ↔ Along P past first ∧ Along P (past ++ first) second := by
  induction first generalizing past with
  | nil => simp
  | cons call rest ih => simp [ih, and_assoc]

theorem Along.at {past before after : History} {call : Exchange}
    (h : Along P past (before ++ call :: after)) : P (past ++ before) call := by
  rw [along_append, along_cons] at h
  exact h.2.1

theorem Along.of_forall {past calls : History}
    (h : ∀ before call after, calls = before ++ call :: after → P (past ++ before) call) :
    Along P past calls := by
  induction calls generalizing past with
  | nil => trivial
  | cons call rest ih =>
    refine ⟨?first, ih fun before next after hrest => ?rest⟩
    case first =>
      have hfirst := h [] call rest rfl
      rwa [List.append_nil] at hfirst
    case rest =>
      rw [List.append_assoc]
      exact h (call :: before) next after (by rw [hrest, List.cons_append])

end Along

/-- Whether a call is answered as the surroundings answer it at that point. -/
def Surroundings.Gives (env : Surroundings) (past : History) : Exchange → Prop
  | .now moment => moment = env.now past
  | .copy text result => result = env.copy past text
  | .sleep _ => True
  | .tell .. => True

/-! ### Reading a history -/

/-- A write to the clipboard and the time that was last looked at before it. -/
structure Write where
  moment : Option Moment
  text : String
  result : Except CopyError Unit
  deriving DecidableEq

def Write.succeeds (write : Write) : Bool := write.result.isOk

/-- The time that is last looked at in a history, or the given one. -/
def lastLook (last : Option Moment) : History → Option Moment
  | [] => last
  | .now moment :: rest => lastLook (some moment) rest
  | .sleep _ :: rest => lastLook last rest
  | .copy .. :: rest => lastLook last rest
  | .tell .. :: rest => lastLook last rest

def writesFrom (last : Option Moment) : History → List Write
  | [] => []
  | .now moment :: rest => writesFrom (some moment) rest
  | .sleep _ :: rest => writesFrom last rest
  | .copy text result :: rest => ⟨last, text, result⟩ :: writesFrom last rest
  | .tell .. :: rest => writesFrom last rest

/-- The writes of a history, in order. -/
def writes (history : History) : List Write := writesFrom none history

theorem writesFrom_append (last : Option Moment) (first second : History) :
    writesFrom last (first ++ second) =
      writesFrom last first ++ writesFrom (lastLook last first) second := by
  induction first generalizing last with
  | nil => rfl
  | cons call rest ih => cases call <;> simp [writesFrom, lastLook, ih]

namespace Exchange

def isCopy : Exchange → Bool
  | .copy .. => true
  | _ => false

def pause? : Exchange → Option Binary64
  | .sleep seconds => some seconds
  | _ => none

/-- The index of the event that a call begins. -/
def begins? : Exchange → Option Nat
  | .tell (.copying index) _ => some index
  | _ => none

/-- Whether a call says how the run ended. -/
def isClosing : Exchange → Bool
  | .tell .finished _ => true
  | .tell .interrupted _ => true
  | _ => false

end Exchange

def pauses (history : History) : List Binary64 := history.filterMap Exchange.pause?

/-- The indices of the events that were begun, in order. -/
def begun (history : History) : List Nat := history.filterMap Exchange.begins?

theorem begun_append (first second : History) :
    begun (first ++ second) = begun first ++ begun second := List.filterMap_append

theorem pauses_append (first second : History) :
    pauses (first ++ second) = pauses first ++ pauses second := List.filterMap_append

end ClipCadence.Run
