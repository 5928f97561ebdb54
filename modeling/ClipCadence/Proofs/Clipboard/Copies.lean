import ClipCadence.Proofs.Clipboard.Deliveries

/-!
Writing to memory. Whether a write fails depends on its number only, counted from the first write
of all runs, and a memory that is not told to fail keeps every text that it is given.

Main statement: `World.rehearse_in_memory`, for all runs over such a memory.
-/

namespace ClipCadence

open Number Text Run

namespace Memory

variable (memory : Memory)

/-- What the write after the next `n` ones comes to. -/
def verdict (n : Nat) : Except CopyError Unit :=
  let write := memory.calls + n + 1
  if memory.failOn.contains (write : Int) then .error (.simulated write) else .ok ()

@[simp] theorem failOn_copy (text : String) : (memory.copy text).2.failOn = memory.failOn := by
  rw [copy]
  split <;> rfl

theorem copyAll_concat (texts : List String) (text : String) :
    memory.copyAll (texts ++ [text]) = ((memory.copyAll texts).copy text).2 :=
  memory.copyAll_append texts [text]

@[simp] theorem failOn_copyAll (texts : List String) :
    (memory.copyAll texts).failOn = memory.failOn := by
  induction texts using List.reverseRecOn with
  | nil => rfl
  | append_singleton texts text ih => rw [copyAll_concat, failOn_copy, ih]

@[simp] theorem calls_copyAll (texts : List String) :
    (memory.copyAll texts).calls = memory.calls + texts.length := by
  induction texts using List.reverseRecOn with
  | nil => rfl
  | append_singleton texts text ih =>
    rw [copyAll_concat, calls_copy, ih, List.length_append, List.length_singleton, Nat.add_assoc]

theorem copy_copyAll (texts : List String) (text : String) :
    ((memory.copyAll texts).copy text).1 = memory.verdict texts.length := by
  rw [copy, failsNext, next, failOn_copyAll, calls_copyAll, verdict]
  split <;> rfl

/-- The number of a text among all that are written, as the memory counts it. -/
def number (position : Nat) : Int := ((memory.calls + position : Nat) : Int)

/-- The texts that the memory keeps of some texts that are written one after the other. -/
def kept (texts : List String) : List String :=
  ((texts.zipIdx 1).filter fun entry => !memory.failOn.contains (memory.number entry.2)).map
    Prod.fst

theorem kept_concat (texts : List String) (text : String) :
    memory.kept (texts ++ [text]) =
      memory.kept texts ++
        if memory.failOn.contains (memory.number (texts.length + 1)) then [] else [text] := by
  rw [kept, List.zipIdx_append, List.filter_append, List.map_append, ← kept, List.zipIdx_singleton,
    Nat.add_comm 1, List.filter_singleton]
  cases memory.failOn.contains (memory.number (texts.length + 1)) <;> rfl

theorem history_copyAll_eq (texts : List String) :
    (memory.copyAll texts).history = memory.history ++ memory.kept texts := by
  induction texts using List.reverseRecOn with
  | nil => exact (List.append_nil _).symm
  | append_singleton texts text ih =>
    have hnext : (memory.copyAll texts).failsNext =
        memory.failOn.contains (memory.number (texts.length + 1)) := by
      rw [failsNext, next, failOn_copyAll, calls_copyAll, number, Nat.add_assoc]
    rw [copyAll_concat, kept_concat, copy, hnext]
    split
    · rw [ih, List.append_nil]
    · rw [ih, List.append_assoc]

variable {memory}

theorem verdict_of_reliable (h : memory.failOn = []) (n : Nat) : memory.verdict n = .ok () := by
  rw [verdict, h]
  rfl

/-- A memory that is not told to fail keeps every text. -/
theorem history_copyAll (h : memory.failOn = []) (texts : List String) :
    (memory.copyAll texts).history = memory.history ++ texts := by
  have hkept : memory.kept texts = texts := by
    rw [kept, h, List.filter_eq_self.mpr (by simp), List.zipIdx_map_fst]
  rw [history_copyAll_eq, hkept]

end Memory

namespace World

variable {w : World} {memory : Memory} (progress : Progress)

theorem answer_memory (h : w.clipboard = .memory memory) (hsound : w.crashOn = [])
    (text : String) : w.answer text = (memory.copy text).1 := by
  rw [answer, Rehearsal.copy_run_memory h, hsound]
  rfl

theorem answer_after_memory (h : w.clipboard = .memory memory) (hsound : w.crashOn = [])
    (past : History) (text : String) :
    (w.after progress past).answer text = memory.verdict (writes past).length := by
  obtain ⟨hclipboard, hcrash⟩ := after_memory progress h hsound past
  rw [answer_memory hclipboard hcrash, Memory.copy_copyAll, List.length_map]

theorem rehearse_ne_bug_of_memory (h : w.clipboard = .memory memory) (hsound : w.crashOn = [])
    (s : Settings) : (w.rehearse progress s).1 ≠ .error .bug := by
  intro hbug
  obtain ⟨past, text, result, hcopy⟩ := w.exists_copy_of_bug progress hbug
  obtain ⟨hclipboard, hcrash⟩ := after_memory progress h hsound past
  rw [make_copy_memory progress hclipboard, hcrash] at hcopy
  cases hcopy

/-- **A run over memory.** If the memory is not told to fail, a run gives it the payloads of its
first events and starts no tool. All writes succeed, and the memory keeps the payloads. -/
theorem rehearse_in_memory (hreliable : memory.failOn = []) (w : World) (s : Settings) :
    ∃ moments,
      let events := Event.series s.label moments
      let ending := (w.around (.memory memory)).rehearse progress s
      deliveries ending.2.calls =
          events.map (fun event => ⟨some event.moment, .copy event.payload⟩) ∧
        ending.2.clipboard = .memory (memory.copyAll (events.map Event.payload)) ∧
        ∀ report, ending.1 = .ok report →
          report.attempted = events.length ∧ report.failures = [] := by
  have hclipboard : (w.around (.memory memory)).clipboard = .memory memory := rfl
  obtain ⟨made, moments, ⟨logs, hworld⟩, htexts, ⟨calls, hcalls, hdeliveries⟩, hreport⟩ :=
    (w.around (.memory memory)).rehearse_delivers progress s memory.verdict
      (answer_after_memory progress hclipboard rfl)
  refine ⟨moments, ?deliveries, ?clipboard, fun report h => ?report⟩
  case deliveries =>
    rw [hcalls]
    exact hdeliveries
  case clipboard =>
    rw [hworld, ← htexts]
    exact (after_memory progress hclipboard rfl made).1
  case report =>
    obtain ⟨hattempted, hfailures⟩ := hreport report h
    refine ⟨by rw [hattempted, Event.length_series], ?_⟩
    rw [hfailures, List.filterMap_eq_nil_iff]
    intro event _
    rw [Memory.verdict_of_reliable hreliable]
    rfl

end World

end ClipCadence
