import ClipCadence.Proofs.Run.Prefixes
import ClipCadence.Proofs.Run.Simulation
import ClipCadence.Proofs.Run.Undisturbed

/-!
Runs that end at a refused call. Surroundings may refuse a call: a clock that cannot make a pause,
or a clipboard that breaks down. A run takes no notice of such a thing. It goes as it would if
nothing were refused, up to the first call that is; this call is left out, nothing comes after it,
and there is no report. `cut` takes a history just that far.

Main statement: `Surroundings.performUnder_eq`, for all surroundings and all that can be refused.
-/

namespace ClipCadence.Run

open Number Text

/-- Why a call is refused after some others, if it is. -/
abbrev Refusal (ε : Type) := History → Exchange → Option ε

/-! ### Cutting a history -/

section Cut

variable {ε : Type} (refusal : Refusal ε)

/-- Some calls after a past, up to the first one that is refused. -/
def cut : (past calls : History) → Except ε Unit × History
  | past, [] => (.ok (), past)
  | past, call :: rest =>
    match refusal past call with
    | none => cut (past ++ [call]) rest
    | some error => (.error error, past)

/-- None of these calls is refused. -/
def Granted : (past calls : History) → Prop := Along fun past call => refusal past call = none

variable {refusal} {past calls : History} {call : Exchange}

theorem cut_cons_of_granted (h : refusal past call = none) :
    cut refusal past (call :: calls) = cut refusal (past ++ [call]) calls := by
  rw [cut, h]

theorem cut_cons_of_refused {error : ε} (h : refusal past call = some error) :
    cut refusal past (call :: calls) = (.error error, past) := by
  rw [cut, h]

theorem cut_append_of_granted (h : Granted refusal past calls) (more : History) :
    cut refusal past (calls ++ more) = cut refusal (past ++ calls) more := by
  induction calls generalizing past with
  | nil => rw [List.nil_append, List.append_nil]
  | cons call rest ih =>
    rw [List.cons_append, cut_cons_of_granted h.1, ih h.2, List.append_assoc,
      List.singleton_append]

theorem cut_of_granted (h : Granted refusal past calls) :
    cut refusal past calls = (.ok (), past ++ calls) := by
  have hcut := cut_append_of_granted h []
  rwa [List.append_nil] at hcut

/-- A history that holds a refused call. -/
structure RefusedAt (refusal : Refusal ε) (past calls before : History) (error : ε) : Prop where
  granted : Granted refusal past before
  refused : ∃ call rest, calls = before ++ call :: rest ∧ refusal (past ++ before) call = some error

theorem RefusedAt.cut_eq {before : History} {error : ε}
    (h : RefusedAt refusal past calls before error) :
    cut refusal past calls = (.error error, past ++ before) := by
  obtain ⟨call, rest, rfl, hrefused⟩ := h.refused
  rw [cut_append_of_granted h.granted, cut_cons_of_refused hrefused]

theorem RefusedAt.append {before : History} {error : ε}
    (h : RefusedAt refusal past calls before error) (more : History) :
    RefusedAt refusal past (calls ++ more) before error := by
  obtain ⟨call, rest, rfl, hrefused⟩ := h.refused
  exact ⟨h.granted, call, rest ++ more, by rw [List.append_assoc, List.cons_append], hrefused⟩

/-- Either no call is refused or there is a first one that is. -/
theorem granted_or_refusedAt (refusal : Refusal ε) (past calls : History) :
    Granted refusal past calls ∨ ∃ before error, RefusedAt refusal past calls before error := by
  induction calls generalizing past with
  | nil => exact .inl trivial
  | cons call rest ih =>
    cases hcall : refusal past call with
    | some error => exact .inr ⟨[], error, trivial, call, rest, rfl, by rwa [List.append_nil]⟩
    | none =>
      rcases ih (past ++ [call]) with hgranted | ⟨before, error, hrest⟩
      · exact .inl ⟨hcall, hgranted⟩
      · obtain ⟨next, after, rfl, hrefused⟩ := hrest.refused
        refine .inr ⟨call :: before, error, ⟨hcall, hrest.granted⟩, next, after, rfl, ?_⟩
        rwa [List.append_assoc, List.singleton_append] at hrefused

end Cut

/-! ### Surroundings that refuse calls -/

namespace Surroundings

section Ports

variable {ε : Type} (env : Surroundings) (refusal : Refusal ε)

/-- A call and its answer, if the call is granted. -/
def askFor {α : Type} (answer : History → α × Exchange) : Performance ε α :=
  ask fun past =>
    match refusal past (answer past).2 with
    | none => .ok (answer past)
    | some error => .error error

def portsUnder : Ports (Performance ε) where
  clipboard := env.clipboard
  now := askFor refusal fun past => (env.now past, .now (env.now past))
  sleep seconds := askFor refusal fun _ => ((), .sleep seconds)
  copy text := askFor refusal fun past => (env.copy past text, .copy text (env.copy past text))
  stopped := ExceptT.mk fun past => (.ok (env.told past), past)
  tell notice report := askFor refusal fun _ => ((), .tell notice report)
  log _ := return

/-- The report of a run, or why a call was refused, and the calls that it made. -/
def performUnder (s : Settings) : Except ε Report × History :=
  (ClipCadence.run (env.portsUnder refusal) s).run []

end Ports

section Cuts

variable {ε : Type} {refusal : Refusal ε}

/-- An action with refusals makes the calls of the one without them, cut at the first that is
refused. -/
def Cuts (refusal : Refusal ε) {α : Type} (whole : StateM History α) (action : Performance ε α) :
    Prop :=
  ∀ past, ∃ calls, (whole.run past).2 = past ++ calls ∧
    action.run past =
      ((cut refusal past calls).1.map fun _ => (whole.run past).1, (cut refusal past calls).2)

theorem Cuts.bind {α β : Type} {x : StateM History α} {y : Performance ε α}
    {f : α → StateM History β} {g : α → Performance ε β} (hxy : Cuts refusal x y)
    (hfg : ∀ a, Cuts refusal (f a) (g a)) : Cuts refusal (x >>= f) (y >>= g) := by
  intro past
  obtain ⟨calls, hcalls, hy⟩ := hxy past
  rcases hx : x.run past with ⟨a, after⟩
  rw [hx] at hcalls hy
  obtain rfl : after = past ++ calls := hcalls
  obtain ⟨more, hmore, hg⟩ := hfg a (past ++ calls)
  have hwhole : (x >>= f).run past = (f a).run (past ++ calls) := by
    rw [StateT.run_bind, hx]
    rfl
  refine ⟨calls ++ more, by rw [hwhole, hmore, List.append_assoc], ?_⟩
  rw [hwhole]
  rcases granted_or_refusedAt refusal past calls with hgranted | ⟨before, error, hrefused⟩
  · rw [cut_of_granted hgranted] at hy
    rw [cut_append_of_granted hgranted, ← hg]
    exact Fallible.run_bind_ok hy
  · rw [hrefused.cut_eq] at hy
    rw [(hrefused.append more).cut_eq]
    exact Fallible.run_bind_error hy

/-- One call, and the same call where it may be refused. -/
theorem cuts_askFor {α : Type} (answer : History → α × Exchange) :
    Cuts refusal (modifyGet fun past => ((answer past).1, past ++ [(answer past).2]))
      (askFor refusal answer) := by
  intro past
  refine ⟨[(answer past).2], rfl, ?_⟩
  simp only [askFor, ask, ExceptT.run_mk]
  cases hcall : refusal past (answer past).2 with
  | none => rw [cut_cons_of_granted hcall, cut]; rfl
  | some error => rw [cut_cons_of_refused hcall]; rfl

/-- An action without a call. -/
theorem cuts_quiet {α : Type} (value : History → α) :
    Cuts refusal (do return value (← get)) (ExceptT.mk fun past => (.ok (value past), past)) :=
  fun past => ⟨[], by rw [List.append_nil]; rfl, rfl⟩

def cutting (refusal : Refusal ε) : Simulation (StateM History) (Performance ε) where
  Rel := Cuts refusal
  pure a := cuts_quiet fun _ => a
  bind := Cuts.bind

theorem cutting_links (env : Surroundings) (refusal : Refusal ε) :
    (cutting refusal).Links env.ports (env.portsUnder refusal) where
  clipboard := rfl
  now := cuts_askFor fun past => (env.now past, .now (env.now past))
  sleep seconds := cuts_askFor fun _ => ((), .sleep seconds)
  copy text := cuts_askFor fun past => (env.copy past text, .copy text (env.copy past text))
  stopped := cuts_quiet env.told
  tell notice report := cuts_askFor fun _ => ((), .tell notice report)
  log _ := cuts_quiet fun _ => ()

end Cuts

section Perform

variable {ε : Type} (env : Surroundings) (refusal : Refusal ε) (s : Settings)

/-- **A run with refusals is the run without them, cut at the first refused call.** -/
theorem performUnder_eq :
    env.performUnder refusal s =
      ((cut refusal [] (env.history s)).1.map fun _ => env.report s,
        (cut refusal [] (env.history s)).2) := by
  obtain ⟨calls, hcalls, hrun⟩ := Simulation.run (cutting_links env refusal) s []
  have hhistory : env.history s = calls := hcalls
  rw [hhistory]
  exact hrun

/-- A run that is refused nothing ends in its report; any other one ends at the first call that is
refused. -/
theorem performUnder_cases :
    (Granted refusal [] (env.history s) ∧
        env.performUnder refusal s = (.ok (env.report s), env.history s)) ∨
      ∃ before error, RefusedAt refusal [] (env.history s) before error ∧
        env.performUnder refusal s = (.error error, before) := by
  rw [performUnder_eq]
  rcases granted_or_refusedAt refusal [] (env.history s) with hgranted | ⟨before, error, hrefused⟩
  · exact .inl ⟨hgranted, by rw [cut_of_granted hgranted]; rfl⟩
  · exact .inr ⟨before, error, hrefused, by rw [hrefused.cut_eq]; rfl⟩

theorem performUnder_isPrefix : (env.performUnder refusal s).2 <+: env.history s := by
  rcases env.performUnder_cases refusal s with ⟨-, hrun⟩ | ⟨before, error, hrefused, hrun⟩
  · rw [hrun]
  · obtain ⟨call, rest, hhistory, -⟩ := hrefused.refused
    rw [hrun, hhistory]
    exact List.prefix_append before (call :: rest)

theorem writes_isPrefix {first second : History} (h : first <+: second) :
    writes first <+: writes second := by
  obtain ⟨rest, rfl⟩ := h
  rw [writes, writes, writesFrom_append]
  exact List.prefix_append _ _

/-- The first writes of a run are those of some first events, in order. -/
theorem exists_written_of_isPrefix {made : History} (h : made <+: env.history s) :
    ∃ replies : List Reply, replies.length ≤ s.count ∧ writes made = written s replies := by
  obtain ⟨replies, hr, -, -, hwritten⟩ := env.course s
  have hprefix := writes_isPrefix h
  rw [hwritten] at hprefix
  have hshort : replies.take (writes made).length <+: replies := List.take_prefix _ _
  have hlength := hprefix.length_le
  rw [length_written] at hlength
  refine ⟨_, hshort.length_le.trans hr.length_le, ?_⟩
  rw [← take_written hshort, List.length_take_of_le hlength]
  exact List.prefix_iff_eq_take.mp hprefix

end Perform

end Surroundings

end ClipCadence.Run
