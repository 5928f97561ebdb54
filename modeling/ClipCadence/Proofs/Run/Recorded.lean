import ClipCadence.Proofs.Run.Rehearsed

/-!
The record of a rehearsal. A call makes a difference to the clipboard of a world only if it is a
write, and it is recorded: as a start of the tool, if it is a write to one. Notices that are
printed are not recorded, and a call that crashes may end the rehearsal before it is.

Main statement: `World.rehearse_made`, what a rehearsal has recorded when it ends are first calls of
the run among the surroundings of its world, and all of them if there is a report.
-/

namespace ClipCadence

open Number Text Run

/-! ### What a call does to the clipboard -/

theorem Run.Exchange.copy_or_quiet (call : Exchange) :
    (∃ text result, call = .copy text result) ∨ call.isCopy = false := by
  cases call with
  | copy text result => exact .inl ⟨text, result, rfl⟩
  | now | sleep | tell => exact .inr rfl

/-- The call that gives a text to a clipboard. -/
def Clipboard.call : Clipboard → String → Call
  | .memory _, text => .copy text
  | .tool found, text => .start (found.call text)

/-- A memory after some writes. -/
def Memory.copyAll (memory : Memory) (texts : List String) : Memory :=
  texts.foldl (fun memory text => (memory.copy text).2) memory

theorem Memory.copyAll_append (memory : Memory) (first second : List String) :
    memory.copyAll (first ++ second) = (memory.copyAll first).copyAll second := List.foldl_append

namespace World

/-- Two worlds whose clipboards are the same and answer alike. -/
structure SameClipboard (w w' : World) : Prop where
  clipboard : w'.clipboard = w.clipboard
  outcomes : w'.outcomes = w.outcomes
  crashOn : w'.crashOn = w.crashOn

section Make

variable (progress : Progress) (w : World)

/-- Only a write makes a difference to the clipboard. -/
theorem make_quiet {call : Exchange} (h : call.isCopy = false) :
    w.SameClipboard (w.make progress call).2 := by
  cases call with
  | now moment =>
    rw [make_now]
    cases later w.time w.step <;> exact ⟨rfl, rfl, rfl⟩
  | sleep seconds =>
    rw [make_sleep]
    cases pause seconds >>= later w.time <;> exact ⟨rfl, rfl, rfl⟩
  | copy text result => cases h
  | tell notice report =>
    rw [make_tell]
    cases progress with
    | recorded => exact ⟨rfl, rfl, rfl⟩
    | printed lines =>
      dsimp only
      cases lines notice report <;> exact ⟨rfl, rfl, rfl⟩

/-- A world keeps the kind of its clipboard. -/
theorem call_make (call : Exchange) :
    (w.make progress call).2.clipboard.call = w.clipboard.call := by
  rcases call.copy_or_quiet with ⟨text, result, rfl⟩ | hquiet
  · cases hclipboard : w.clipboard with
    | memory memory =>
      rw [make_copy_memory progress hclipboard]
      split
      · exact congrArg Clipboard.call hclipboard
      · rfl
    | tool tool =>
      rw [make_copy_tool progress hclipboard]
      exact congrArg Clipboard.call hclipboard
  · rw [(w.make_quiet progress hquiet).clipboard]

end Make

/-! ### The clipboard after some calls -/

section After

variable (progress : Progress) {w : World}

theorem writes_concat_quiet {call : Exchange} (h : call.isCopy = false) (past : History) :
    writes (past ++ [call]) = writes past := by
  rw [writes, writesFrom_append, ← writes]
  cases call with
  | copy text result => cases h
  | now | sleep | tell => exact List.append_nil _

theorem writes_concat_copy (past : History) (text : String) (result : Except CopyError Unit) :
    writes (past ++ [.copy text result]) = writes past ++ [⟨lastLook none past, text, result⟩] := by
  rw [writes, writesFrom_append, ← writes]
  rfl

/-- Each write to a tool uses up one outcome, and nothing else does. -/
theorem after_tool {tool : Tool} (h : w.clipboard = .tool tool) (calls : History) :
    (w.after progress calls).clipboard = .tool tool ∧
      (w.after progress calls).outcomes = w.outcomes.drop (writes calls).length := by
  induction calls using List.reverseRecOn with
  | nil => exact ⟨h, rfl⟩
  | append_singleton past call ih =>
    obtain ⟨hclipboard, houtcomes⟩ := ih
    rw [after_concat]
    rcases call.copy_or_quiet with ⟨text, result, rfl⟩ | hquiet
    · rw [make_copy_tool progress hclipboard, writes_concat_copy, List.length_append,
        List.length_singleton]
      exact ⟨hclipboard, by rw [houtcomes, List.tail_drop]⟩
    · have hsame := (w.after progress past).make_quiet progress hquiet
      rw [writes_concat_quiet hquiet]
      exact ⟨hsame.clipboard.trans hclipboard, hsame.outcomes.trans houtcomes⟩

/-- Each write to memory is one, unless it crashes. -/
theorem after_memory {memory : Memory} (h : w.clipboard = .memory memory) (hsound : w.crashOn = [])
    (calls : History) :
    (w.after progress calls).clipboard =
        .memory (memory.copyAll ((writes calls).map Write.text)) ∧
      (w.after progress calls).crashOn = [] := by
  induction calls using List.reverseRecOn with
  | nil => exact ⟨h, hsound⟩
  | append_singleton past call ih =>
    obtain ⟨hclipboard, hcrash⟩ := ih
    rw [after_concat]
    rcases call.copy_or_quiet with ⟨text, result, rfl⟩ | hquiet
    · rw [make_copy_memory progress hclipboard, writes_concat_copy, List.map_append,
        Memory.copyAll_append, hcrash]
      exact ⟨rfl, hcrash⟩
    · have hsame := (w.after progress past).make_quiet progress hquiet
      rw [writes_concat_quiet hquiet]
      exact ⟨hsame.clipboard.trans hclipboard, hsame.crashOn.trans hcrash⟩

variable (w)

theorem call_after (calls : History) :
    (w.after progress calls).clipboard.call = w.clipboard.call := by
  induction calls using List.reverseRecOn with
  | nil => rfl
  | append_singleton past call ih => rw [after_concat, call_make, ih]

end After

end World

/-! ### The record of a rehearsal -/

/-- What is recorded of a call, if texts are given to the clipboard by some calls. -/
def Run.Exchange.recorded (progress : Progress) (give : String → Call) : Exchange → List Call
  | .now moment => [.now moment]
  | .sleep seconds => [.sleep seconds]
  | .copy text _ => [give text]
  | .tell notice report =>
    match progress with
    | .recorded => [.tell notice report]
    | .printed _ => []

namespace World

section Record

variable (progress : Progress) (w : World)

/-- A call is recorded, or it crashes and leaves the world as it was. -/
theorem calls_make {call : Exchange} (hnow : ∀ moment, call = .now moment → moment = w.time) :
    (w.make progress call).2.calls = w.calls ++ call.recorded progress w.clipboard.call ∨
      (w.make progress call).1 ≠ .ok () ∧ (w.make progress call).2 = w := by
  cases call with
  | now moment =>
    left
    rw [make_now, hnow moment rfl]
    cases later w.time w.step <;> rfl
  | sleep seconds =>
    rw [make_sleep]
    cases pause seconds >>= later w.time with
    | error overflow => exact .inr ⟨nofun, rfl⟩
    | ok time => exact .inl rfl
  | copy text result =>
    left
    cases hclipboard : w.clipboard with
    | memory memory =>
      rw [make_copy_memory progress hclipboard]
      split <;> rfl
    | tool tool =>
      rw [make_copy_tool progress hclipboard]
      rfl
  | tell notice report =>
    rw [make_tell]
    cases progress with
    | recorded => exact .inl rfl
    | printed lines =>
      dsimp only
      cases lines notice report with
      | error error => exact .inr ⟨nofun, rfl⟩
      | ok lines => exact .inl (List.append_nil _).symm

theorem refusal_eq_none_iff {past : History} {call : Exchange} :
    w.refusal progress past call = none ↔
      ((w.after progress past).make progress call).1 = .ok () := by
  rw [refusal]
  cases ((w.after progress past).make progress call).1 <;> simp

theorem refusal_eq_some_iff {past : History} {call : Exchange} {breakdown : Breakdown} :
    w.refusal progress past call = some breakdown ↔ breakdown.call = call ∧
      ((w.after progress past).make progress call).1 = .error breakdown.crash := by
  obtain ⟨stop, crash⟩ := breakdown
  rw [refusal]
  cases ((w.after progress past).make progress call).1 <;> simp [eq_comm]

variable {w} {progress} in
/-- Only a write ends with a bug. -/
theorem copy_of_make_bug {call : Exchange} (h : (w.make progress call).1 = .error .bug) :
    ∃ text result, call = .copy text result := by
  cases call with
  | copy text result => exact ⟨text, result, rfl⟩
  | now moment =>
    rw [make_now] at h
    cases hlater : later w.time w.step <;> simp [hlater] at h
  | sleep seconds =>
    rw [make_sleep] at h
    cases hlater : pause seconds >>= later w.time <;> simp [hlater] at h
  | tell notice report =>
    rw [make_tell] at h
    cases progress with
    | recorded => cases h
    | printed lines => cases hlines : lines notice report <;> simp [hlines] at h

/-- The call after some others is recorded, or it crashes and leaves the world as it was. -/
theorem calls_concat {past : History} {call : Exchange}
    (hgives : (w.surroundings progress).Gives past call) :
    (w.after progress (past ++ [call])).calls =
        (w.after progress past).calls ++ call.recorded progress w.clipboard.call ∨
      w.refusal progress past call ≠ none ∧
        w.after progress (past ++ [call]) = w.after progress past := by
  have hnow (moment : Moment) (h : call = .now moment) : moment = (w.after progress past).time := by
    rw [h] at hgives
    exact hgives
  rw [after_concat, Ne, refusal_eq_none_iff, ← w.call_after progress past]
  exact calls_make progress _ hnow

theorem calls_after {past calls : History}
    (hgives : Along (w.surroundings progress).Gives past calls)
    (hgranted : Granted (w.refusal progress) past calls) :
    (w.after progress (past ++ calls)).calls =
      (w.after progress past).calls ++ calls.flatMap (·.recorded progress w.clipboard.call) := by
  induction calls generalizing past with
  | nil => rw [List.append_nil, List.flatMap_nil, List.append_nil]
  | cons call rest ih =>
    have hrest := ih hgives.2 hgranted.2
    have hcall := (w.calls_concat progress hgives.1).resolve_right fun h => h.1 hgranted.1
    rwa [hcall, List.append_assoc, List.append_assoc, List.singleton_append] at hrest

/-- A rehearsal makes first calls of the run among the surroundings of its world, and records them.
If it ends in a report these are all calls of the run, and the report is the same. -/
theorem rehearse_made (s : Settings) :
    ∃ made, made <+: (w.surroundings progress).history s ∧
      w.Tracks progress made (w.rehearse progress s).2 ∧
      (w.rehearse progress s).2.calls =
        w.calls ++ made.flatMap (·.recorded progress w.clipboard.call) ∧
      ∀ report, (w.rehearse progress s).1 = .ok report →
        made = (w.surroundings progress).history s ∧
          report = (w.surroundings progress).report s := by
  obtain ⟨hresult, hreached⟩ := w.rehearse_eq progress s
  have hgives := (w.surroundings progress).gives_history s
  rw [hresult]
  rcases (w.surroundings progress).performUnder_cases (w.refusal progress) s with
    ⟨hgranted, hrun⟩ | ⟨before, breakdown, hrefused, hrun⟩
  · rw [hrun] at hreached ⊢
    obtain ⟨logs, hworld⟩ := hreached
    refine ⟨_, List.prefix_refl _, ⟨logs, hworld⟩, ?_, fun report hreport => ⟨rfl, ?_⟩⟩
    · rw [hworld]
      exact w.calls_after progress hgives hgranted
    · exact (Except.ok.inj hreport).symm
  · rw [hrun] at hreached ⊢
    obtain ⟨logs, hworld⟩ := hreached
    obtain ⟨call, rest, hhistory, hcall⟩ := hrefused.refused
    rw [((w.refusal_eq_some_iff progress).mp hcall).1] at hworld
    rw [hhistory, along_append] at hgives
    have hbefore := w.calls_after progress hgives.1 hrefused.granted
    rw [hhistory]
    -- The call at which the world broke down is part of the record if it has left a trace.
    rcases w.calls_concat progress hgives.2.1 with hcalls | ⟨-, hsame⟩
    · refine ⟨before ++ [call], ⟨rest, by simp⟩, ⟨logs, hworld⟩, ?_, nofun⟩
      rw [hworld]
      refine hcalls.trans ?_
      rw [hbefore, List.append_assoc, List.flatMap_append, List.flatMap_singleton]
      rfl
    · refine ⟨before, List.prefix_append _ _, ⟨logs, ?_⟩, ?_, nofun⟩
      · rw [hworld]
        exact congrArg (withLogs · logs) hsame
      · rw [hworld]
        exact (congrArg World.calls hsame).trans hbefore

/-- A rehearsal that ends with a crash does so at one of the calls of the run. -/
theorem exists_make_of_error {s : Settings} {crash : Crash}
    (h : (w.rehearse progress s).1 = .error crash) :
    ∃ past call, call ∈ (w.surroundings progress).history s ∧
      ((w.after progress past).make progress call).1 = .error crash := by
  rw [(w.rehearse_eq progress s).1] at h
  rcases (w.surroundings progress).performUnder_cases (w.refusal progress) s with
    ⟨-, hrun⟩ | ⟨before, breakdown, hrefused, hrun⟩
  · rw [hrun] at h
    cases h
  · rw [hrun] at h
    obtain ⟨call, rest, hhistory, hcall⟩ := hrefused.refused
    have hcrash := ((w.refusal_eq_some_iff progress).mp hcall).2
    rw [Except.error.inj h] at hcrash
    have hmem : call ∈ (w.surroundings progress).history s := by simp [hhistory]
    exact ⟨before, call, hmem, hcrash⟩

/-- A rehearsal ends with a bug only if a write to its clipboard does. -/
theorem exists_copy_of_bug {s : Settings} (h : (w.rehearse progress s).1 = .error .bug) :
    ∃ past text result,
      ((w.after progress past).make progress (.copy text result)).1 = .error .bug := by
  obtain ⟨past, call, -, hcrash⟩ := w.exists_make_of_error progress h
  obtain ⟨text, result, rfl⟩ := copy_of_make_bug hcrash
  exact ⟨past, text, result, hcrash⟩

end Record

end World

end ClipCadence
