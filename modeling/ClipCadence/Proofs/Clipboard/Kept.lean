import ClipCadence.Proofs.Clipboard.Copies
import ClipCadence.Proofs.Event.Decoding
import Mathlib.Data.List.Nodup

/-!
What a memory keeps of a run. The memory counts the writes of all runs, a run counts its events from
one, so an event is written under its own index after as many writes as there were before the run.
Each payload is either kept by the memory or named among the failures of the report, and the two
lists, read by the indices that stand in the payloads, make up the run again.

The run goes over the memory itself, which is passed on from write to write; it can be refused any
other call. It is compared with a run among surroundings that answer each write by its number.

Main statement: `kept_or_failed`.
-/

namespace ClipCadence.Run

open Number Text

/-! ### Runs over a memory -/

/-- Actions of a run that keep a memory besides the calls. -/
abbrev Keeping (ε : Type) := ExceptT ε (StateM (Memory × History))

namespace Keeping

variable {ε α : Type}

/-- An action that does not concern the memory. -/
def aside (action : Performance ε α) : Keeping ε α :=
  ExceptT.mk fun state => ((action.run state.2).1, state.1, (action.run state.2).2)

def copy (text : String) : Keeping ε (Except CopyError Unit) :=
  ExceptT.mk fun state =>
    let answer := state.1.copy text
    (.ok answer.1, answer.2, state.2 ++ [.copy text answer.1])

end Keeping

namespace Surroundings

variable {ε : Type}

/-- The ports of a run whose clipboard is a memory; all else is as in the given surroundings. -/
def portsOver (env : Surroundings) (refusal : Refusal ε) : Ports (Keeping ε) where
  clipboard := .ofString Memory.name
  now := .aside (env.portsUnder refusal).now
  sleep seconds := .aside ((env.portsUnder refusal).sleep seconds)
  copy := Keeping.copy
  stopped := .aside (env.portsUnder refusal).stopped
  tell notice report := .aside ((env.portsUnder refusal).tell notice report)
  log _ := return

/-- The report of a run over a memory, or why a call was refused; the memory after it; and the
calls that it made. -/
def performOver (env : Surroundings) (refusal : Refusal ε) (memory : Memory) (s : Settings) :
    Except ε Report × Memory × History :=
  (ClipCadence.run (env.portsOver refusal) s).run (memory, [])

/-- Surroundings that answer each write as a memory does. -/
def answeredBy (env : Surroundings) (memory : Memory) : Surroundings :=
  { env with
    clipboard := .ofString Memory.name
    copy := fun past _ => memory.verdict (writes past).length }

end Surroundings

/-- The same refusals, but for writes. -/
def sparing {ε : Type} (refusal : Refusal ε) : Refusal ε := fun past call =>
  if call.isCopy then none else refusal past call

/-! ### The memory follows the calls -/

section Follows

variable {ε : Type} {env : Surroundings} {refusal : Refusal ε} {memory : Memory}

/-- A memory after the writes among some calls. -/
def memoryAfter (memory : Memory) (past : History) : Memory :=
  memory.copyAll ((writes past).map Write.text)

theorem memoryAfter_concat_quiet {call : Exchange} (h : call.isCopy = false) (past : History) :
    memoryAfter memory (past ++ [call]) = memoryAfter memory past := by
  rw [memoryAfter, World.writes_concat_quiet h, memoryAfter]

theorem memoryAfter_concat_copy (past : History) (text : String)
    (result : Except CopyError Unit) :
    memoryAfter memory (past ++ [.copy text result]) =
      ((memoryAfter memory past).copy text).2 := by
  rw [memoryAfter, World.writes_concat_copy, List.map_append, List.map_singleton,
    Memory.copyAll_concat, memoryAfter]

/-- An action over a memory that makes the calls of another action, and leaves the memory that these
calls make. -/
def Keeps (memory : Memory) {α : Type} (x : Performance ε α) (y : Keeping ε α) : Prop :=
  ∀ past, y.run (memoryAfter memory past, past) =
    ((x.run past).1, memoryAfter memory (x.run past).2, (x.run past).2)

theorem Keeps.bind {α β : Type} {x : Performance ε α} {y : Keeping ε α}
    {f : α → Performance ε β} {g : α → Keeping ε β} (hxy : Keeps memory x y)
    (hfg : ∀ a, Keeps memory (f a) (g a)) : Keeps memory (x >>= f) (y >>= g) := by
  intro past
  have hy := hxy past
  rcases hx : x.run past with ⟨result, after⟩
  rw [hx] at hy
  cases result with
  | ok a =>
    rw [Fallible.run_bind_ok hx, Fallible.run_bind_ok hy]
    exact hfg a after
  | error error => rw [Fallible.run_bind_error hx, Fallible.run_bind_error hy]

/-- A call that is no write is granted or refused as it is without the memory. -/
theorem keeps_aside {α : Type} (answer : History → α × Exchange)
    (h : ∀ past, (answer past).2.isCopy = false) :
    Keeps memory (Surroundings.askFor (sparing refusal) answer)
      (.aside (Surroundings.askFor refusal answer)) := by
  intro past
  have hsame : sparing refusal past (answer past).2 = refusal past (answer past).2 := by
    rw [sparing, h, if_neg Bool.false_ne_true]
  simp only [Keeping.aside, Surroundings.askFor, ask, ExceptT.run_mk, hsame]
  cases refusal past (answer past).2 with
  | none =>
    dsimp only
    rw [memoryAfter_concat_quiet (h past)]
  | some error => rfl

theorem keeps_copy (text : String) :
    Keeps memory (((env.answeredBy memory).portsUnder (sparing refusal)).copy text)
      (Keeping.copy text) := by
  intro past
  have hresult : ((memoryAfter memory past).copy text).1 =
      memory.verdict (writes past).length := by
    rw [memoryAfter, Memory.copy_copyAll, List.length_map]
  simp only [Keeping.copy, ExceptT.run_mk, hresult]
  rw [← memoryAfter_concat_copy past text (memory.verdict (writes past).length)]
  rfl

theorem keeps_quiet {α : Type} (value : History → α) :
    Keeps memory (ExceptT.mk fun past => (Except.ok (ε := ε) (value past), past))
      (.aside (ExceptT.mk fun past => (.ok (value past), past))) :=
  fun _ => rfl

def keeping (ε : Type) (memory : Memory) : Simulation (Performance ε) (Keeping ε) where
  Rel := Keeps memory
  pure _ _ := rfl
  bind := Keeps.bind

theorem keeping_links (env : Surroundings) (refusal : Refusal ε) (memory : Memory) :
    (keeping ε memory).Links ((env.answeredBy memory).portsUnder (sparing refusal))
      (env.portsOver refusal) where
  clipboard := rfl
  now := keeps_aside (fun past => (env.now past, .now (env.now past))) fun _ => rfl
  sleep seconds := keeps_aside (fun _ => ((), .sleep seconds)) fun _ => rfl
  copy := keeps_copy
  stopped := keeps_quiet env.told
  tell notice report := keeps_aside (fun _ => ((), .tell notice report)) fun _ => rfl
  log _ _ := rfl

/-- A run over a memory is a run that is answered by the numbers of its writes, and it leaves the
memory that its writes make. -/
theorem performOver_eq (env : Surroundings) (refusal : Refusal ε) (memory : Memory) (s : Settings) :
    let ending := (env.answeredBy memory).performUnder (sparing refusal) s
    env.performOver refusal memory s = (ending.1, memoryAfter memory ending.2, ending.2) :=
  Simulation.run (keeping_links env refusal memory) s []

end Follows

/-! ### Events under their indices -/

section Events

variable (label : String) (moments : List Moment)

theorem indices_series :
    (Event.series label moments).map Event.index = List.range' 1 moments.length := by
  rw [Event.series, List.map_map, ← List.zipIdx_map_snd]
  rfl

theorem zipIdx_payloads :
    ((Event.series label moments).map Event.payload).zipIdx 1 =
      (Event.series label moments).map fun event => (event.payload, event.index) := by
  rw [List.zipIdx_eq_zip_range', List.length_map, Event.length_series,
    ← indices_series label moments, List.zip_map']

variable {label moments}

theorem index_pos {event : Event} (h : event ∈ Event.series label moments) : 1 ≤ event.index := by
  have hindex := List.mem_map_of_mem (f := Event.index) h
  rw [indices_series, List.mem_range'_1] at hindex
  exact hindex.1

/-- The index that stands in a payload, or zero if there is none. -/
def indexIn (payload : String) : Nat :=
  ((Payload.decode? payload.toList).map Payload.Parts.index).getD 0

theorem indexIn_payload {event : Event} (h : event ∈ Event.series label moments) :
    indexIn event.payload = event.index := by
  obtain ⟨entry, -, rfl⟩ := List.mem_map.mp h
  rw [indexIn]
  exact congrArg (fun parts => (Option.map Payload.Parts.index parts).getD 0)
    (Payload.decode?_text label entry.2 entry.1)

variable (label moments)

theorem sorted_payloads :
    ((Event.series label moments).map Event.payload).Pairwise fun payload later =>
      indexIn payload < indexIn later := by
  have hindices : ((Event.series label moments).map Event.payload).map indexIn =
      List.range' 1 moments.length := by
    rw [← indices_series label, List.map_map]
    exact List.map_congr_left fun event => indexIn_payload
  rw [← List.pairwise_map, hindices]
  exact List.pairwise_lt_range' 1

end Events

/-! ### Two lists made into one -/

/-- Whether a payload comes no later than another one. -/
def inOrder (payload other : String) : Bool := indexIn payload ≤ indexIn other

/-- What has been divided is put together again by order. -/
theorem merge_filter {payloads : List String} (fails : String → Bool)
    (hsorted : payloads.Pairwise fun payload later => indexIn payload < indexIn later) :
    (payloads.filter fun payload => !fails payload).merge (payloads.filter fails) inOrder =
      payloads := by
  induction payloads with
  | nil => exact List.merge_right []
  | cons payload rest ih =>
    obtain ⟨hfirst, hrest⟩ := List.pairwise_cons.mp hsorted
    have hmerge := ih hrest
    cases hfails : fails payload with
    -- The first payload comes before all others, so it comes first wherever it has gone.
    | true =>
      rw [List.filter_cons_of_pos hfails, List.filter_cons_of_neg (by simp [hfails])]
      cases hkept : rest.filter fun payload => !fails payload with
      | nil =>
        rw [hkept, List.nil_merge] at hmerge
        rw [List.nil_merge, hmerge]
      | cons later kept =>
        have hlater : indexIn payload < indexIn later :=
          hfirst later (List.mem_filter.mp (hkept ▸ List.mem_cons_self)).1
        rw [hkept] at hmerge
        rw [List.cons_merge_cons_neg _ _ _ (by simpa [inOrder] using hlater), hmerge]
    | false =>
      rw [List.filter_cons_of_pos (p := fun payload => !fails payload) (by simp [hfails]),
        List.filter_cons_of_neg (by simp [hfails])]
      cases hfailed : rest.filter fails with
      | nil =>
        rw [hfailed, List.merge_right] at hmerge
        rw [List.merge_right, hmerge]
      | cons later failed =>
        have hlater : indexIn payload < indexIn later :=
          hfirst later (List.mem_filter.mp (hfailed ▸ List.mem_cons_self)).1
        rw [hfailed] at hmerge
        rw [List.cons_merge_cons_pos _ _ _ (by simpa [inOrder] using hlater.le), hmerge]

/-! ### Events that are kept and events that fail -/

section Division

variable (memory : Memory)

/-- Whether the write of an event fails, if it is the first run after the writes of the memory. -/
def fails (event : Event) : Bool := memory.failOn.contains (memory.number event.index)

def keptOf (events : List Event) : List String :=
  (events.filter fun event => !fails memory event).map Event.payload

def failuresIn (events : List Event) : List Failure :=
  (events.filter (fails memory)).map fun event =>
    ⟨event.index, event.payload,
      "simulated failure on write " ++ toString (memory.calls + event.index)⟩

variable (label : String) (moments : List Moment)

theorem kept_payloads :
    memory.kept ((Event.series label moments).map Event.payload) =
      keptOf memory (Event.series label moments) := by
  rw [Memory.kept, zipIdx_payloads, List.filter_map, List.map_map]
  rfl

theorem failures_of_verdict :
    ((Event.series label moments).filterMap fun event =>
        event.failure? (memory.verdict (event.index - 1))) =
      failuresIn memory (Event.series label moments) := by
  rw [failuresIn, ← List.filterMap_eq_map, List.filterMap_filter]
  refine List.filterMap_congr fun event hevent => ?_
  have hwrite : memory.calls + (event.index - 1) + 1 = memory.calls + event.index := by
    have hpos := index_pos hevent
    omega
  rw [Memory.verdict, fails, Memory.number, hwrite]
  split <;> rfl

theorem merge_kept_failed :
    (keptOf memory (Event.series label moments)).merge
        ((failuresIn memory (Event.series label moments)).map Failure.payload) inOrder =
      (Event.series label moments).map Event.payload := by
  let failing (payload : String) : Bool :=
    memory.failOn.contains (memory.number (indexIn payload))
  have hfails : ∀ event ∈ Event.series label moments, failing event.payload = fails memory event :=
    fun event hevent => by simp only [failing, fails, indexIn_payload hevent]
  have hmerge := merge_filter failing (sorted_payloads label moments)
  rw [List.filter_map, List.filter_map] at hmerge
  rw [keptOf, failuresIn, List.map_map]
  convert hmerge using 2
  · refine congrArg _ (List.filter_congr fun event hevent => ?_)
    exact (congrArg not (hfails event hevent)).symm
  · refine congrArg _ (List.filter_congr fun event hevent => (hfails event hevent).symm)

theorem nodup_kept_failed :
    (keptOf memory (Event.series label moments) ++
      (failuresIn memory (Event.series label moments)).map Failure.payload).Nodup := by
  rw [← (List.merge_perm_append inOrder).nodup_iff, merge_kept_failed]
  exact (sorted_payloads label moments).imp fun hlt hsame => hlt.ne (congrArg indexIn hsame)

variable {label moments} in
theorem mem_kept_iff {event : Event} (h : event ∈ Event.series label moments) :
    event.payload ∈ keptOf memory (Event.series label moments) ↔
      event.payload ∉ (failuresIn memory (Event.series label moments)).map Failure.payload := by
  have hdisjoint := List.disjoint_of_nodup_append (nodup_kept_failed memory label moments)
  have hmem : event.payload ∈ (Event.series label moments).map Event.payload :=
    List.mem_map_of_mem h
  rw [← merge_kept_failed memory label moments, List.mem_merge] at hmem
  exact ⟨fun hkept hfailed => hdisjoint hkept hfailed, hmem.resolve_right⟩

end Division

/-! ### The run -/

section Run

variable {ε : Type} (env : Surroundings) (refusal : Refusal ε) (memory : Memory) (s : Settings)

/-- What a run over a memory writes, what it makes of the memory, and what its report says. -/
theorem performOver_delivers :
    ∃ moments,
      let events := Event.series s.label moments
      let ending := env.performOver refusal memory s
      (writes ending.2.2).map Write.text = events.map Event.payload ∧
      ending.2.1 = memory.copyAll (events.map Event.payload) ∧
      ∀ report, ending.1 = .ok report →
        report.attempted = events.length ∧ report.failures = failuresIn memory events := by
  let around := env.answeredBy memory
  have hanswer (past : History) (text : String) :
      around.copy past text = memory.verdict (writes past).length := rfl
  obtain ⟨replies, -, hwritten⟩ := around.exists_written_of_isPrefix s
    (around.performUnder_isPrefix (sparing refusal) s)
  rw [performOver_eq]
  refine ⟨replies.map Reply.moment, ?texts, ?kept, fun report hreport => ?report⟩
  case texts => rw [hwritten, texts_written]
  case kept => rw [memoryAfter, hwritten, texts_written]
  case report =>
    -- A run that is refused a call ends without a report.
    rcases around.performUnder_cases (sparing refusal) s with
      ⟨-, hrun⟩ | ⟨before, error, -, hrun⟩
    · rw [hrun] at hreport hwritten
      obtain rfl := Except.ok.inj hreport
      obtain ⟨hattempted, hfailures⟩ := Surroundings.report_of_verdict hanswer hwritten
      rw [failures_of_verdict] at hfailures
      exact ⟨by rw [hattempted, Event.length_series, List.length_map], hfailures⟩
    · rw [hrun] at hreport
      cases hreport

variable {refusal} in
/-- A run over a memory to which nothing is refused ends in a report. -/
theorem exists_report_of_performOver (h : ∀ past call, refusal past call = none) :
    ∃ report, (env.performOver refusal memory s).1 = .ok report := by
  rw [performOver_eq]
  rcases (env.answeredBy memory).performUnder_cases (sparing refusal) s with
    ⟨-, hrun⟩ | ⟨before, error, hrefused, -⟩
  · exact ⟨_, congrArg Prod.fst hrun⟩
  · obtain ⟨call, rest, -, hcall⟩ := hrefused.refused
    simp [sparing, h] at hcall

end Run

/-- Over every memory, told to fail at any writes and written to before, and whatever the clock
shows, wherever the run is told to stop or ended by another refused call: the run writes the
payloads of its first events, and the memory counts each of them, keeps those whose number is none
to fail at after what it kept before, and is left as if all its texts had been written one after the
other. A report counts these events and names the others, each with its number in the memory. So
each payload is in one of the two lists and in no other, and together they make up, by the
indices in them, what was written. Only a refused call prevents the report. -/
theorem kept_or_failed {ε : Type} (failOn : List Int) (earlier : List String) (env : Surroundings)
    (refusal : Refusal ε) (s : Settings) :
    let start := Memory.empty failOn
    let memory := start.copyAll earlier
    let ending := env.performOver refusal memory s
    let after := ending.2.1
    ∃ moments : List Moment,
      let events := Event.series s.label moments
      let kept := keptOf memory events
      events.map Event.index = List.range' 1 events.length ∧
      (writes ending.2.2).map Write.text = events.map Event.payload ∧
      memory.calls = earlier.length ∧
      after.calls = memory.calls + events.length ∧
      after.history = memory.history ++ kept ∧
      after = start.copyAll (earlier ++ events.map Event.payload) ∧
      after.content = (start.kept (earlier ++ events.map Event.payload)).getLast? ∧
      (∀ report, ending.1 = .ok report →
        let failed := report.failures.map Failure.payload
        report.attempted = events.length ∧
        report.failures = failuresIn memory events ∧
        (kept ++ failed).Nodup ∧
        (∀ event ∈ events, event.payload ∈ kept ↔ event.payload ∉ failed) ∧
        kept.merge failed inOrder = events.map Event.payload) ∧
      ((∀ past call, refusal past call = none) → ∃ report, ending.1 = .ok report) := by
  intro start memory ending after
  obtain ⟨moments, htexts, hafter, hreport⟩ := performOver_delivers env refusal memory s
  let events := Event.series s.label moments
  have hafter : after = memory.copyAll (events.map Event.payload) := hafter
  have hwhole : after = start.copyAll (earlier ++ events.map Event.payload) := by
    rw [hafter, Memory.copyAll_append]
  refine ⟨moments, ?indices, htexts, ?before, ?calls, ?history, hwhole, ?content, ?report,
    exists_report_of_performOver env memory s⟩
  case indices => rw [indices_series, Event.length_series]
  case before =>
    rw [Memory.calls_copyAll]
    exact Nat.zero_add _
  case calls => rw [hafter, Memory.calls_copyAll, List.length_map]
  case history => rw [hafter, Memory.history_copyAll_eq, kept_payloads]
  case content =>
    rw [hwhole, Memory.content, Memory.history_copyAll_eq]
    rfl
  case report =>
    intro report hok failed
    obtain ⟨hattempted, hfailures⟩ := hreport report hok
    refine ⟨hattempted, hfailures, ?_⟩
    simp only [failed, hfailures]
    exact ⟨nodup_kept_failed _ _ _, fun event => mem_kept_iff memory, merge_kept_failed _ _ _⟩

end ClipCadence.Run
