import ClipCadence.Proofs.Console.Templates
import ClipCadence.Proofs.Run.Completion
import ClipCadence.Proofs.Run.Recorded

/-!
Rehearsals whose notices are printed. No action of a rehearsal looks at what has been printed, and
printing is all that a notice does, so a rehearsal goes the same way however its notices are shown,
as long as the same ones can be shown. What it has printed in the end are the lines of its notices,
one notice after the other.

Only a notice that cannot be shown ends a rehearsal at the console. The notices of a run hold no
name from outside but that of its clipboard, and the first notice holds this one; so a console that
cannot print it ends the rehearsal there, and no other does.

Main statements: `World.rehearse_printed`, `World.rehearse_showing`, `World.rehearse_ne_markup` and
`World.rehearse_unprintable`.
-/

namespace ClipCadence

open Console Number Run Text

/-- How notices are shown. -/
abbrev Showing := Notice → Report → Except Markup.Error (List Line)

/-- Ways to show notices that show the same ones, and fail alike at the others. -/
def Showing.Agrees (first second : Showing) : Prop :=
  ∀ notice report,
    (first notice report).map (fun _ => ()) = (second notice report).map fun _ => ()

/-- The lines of a call, those of a notice that cannot be shown left out. -/
def Run.Exchange.lines (showing : Showing) : Exchange → List Line
  | .tell notice report => (showing notice report).toOption.getD []
  | _ => []

/-! ### Names in notices -/

namespace Run.Surroundings

section Names

variable {env : Surroundings} {s : Settings} {start : Moment}
  (hcopy : ∀ past text error, env.copy past text = .error error →
    NamesOnly env.clipboard error.named)

include hcopy

theorem names_round {h : History} {past : List Reply} {reply : Reply}
    (hgives : Along env.Gives h (round s start past reply)) {notice : Notice} {report : Report}
    (hmem : .tell notice report ∈ round s start past reply) :
    NamesOnly env.clipboard notice.named := by
  obtain ⟨hgives, -⟩ := (along_append ..).mp hgives
  rcases List.mem_append.mp hmem with htrial | hpause
  · simp only [trial, List.mem_cons, reduceCtorEq, false_or, Exchange.tell.injEq] at htrial
    rcases htrial with ⟨rfl, -⟩ | hcomplaint
    · exact .inl rfl
    · obtain ⟨-, -, hanswer, -⟩ := hgives
      unfold complaint at hcomplaint
      cases hresult : reply.result with
      | ok done => simp [hresult] at hcomplaint
      | error error =>
        simp only [hresult, List.mem_singleton, Exchange.tell.injEq] at hcomplaint
        rw [hcomplaint.1]
        exact hcopy _ _ error (hanswer.symm.trans hresult)
  · unfold pauseAfter at hpause
    split at hpause <;> simp at hpause

theorem names_rounds {h : History} {past next : List Reply}
    (hgives : Along env.Gives h (rounds s start past next)) {notice : Notice} {report : Report}
    (hmem : .tell notice report ∈ rounds s start past next) :
    NamesOnly env.clipboard notice.named := by
  induction next generalizing past h with
  | nil => cases hmem
  | cons reply next ih =>
    obtain ⟨hround, hrest⟩ := (along_append ..).mp hgives
    rcases List.mem_append.mp hmem with hmem | hmem
    · exact names_round hcopy hround hmem
    · exact ih hrest hmem

/-- If the errors of writes name the clipboard at most, so do the notices of a run. -/
theorem names_history {notice : Notice} {report : Report}
    (hmem : .tell notice report ∈ env.history s) : NamesOnly env.clipboard notice.named := by
  obtain ⟨replies, hreplied, -, hhistory, -⟩ := env.course s
  rw [hhistory] at hmem
  rcases List.mem_append.mp hmem with happroach | hclosing
  · rcases List.mem_append.mp happroach with hopening | hrounds
    · simp only [opening, List.mem_cons, reduceCtorEq, Exchange.tell.injEq, List.not_mem_nil,
        or_false, false_or] at hopening
      rw [hopening.1]
      exact .inr rfl
    · exact names_rounds hcopy hreplied.answered hrounds
  · simp only [closing, List.mem_cons, reduceCtorEq, Exchange.tell.injEq, List.not_mem_nil,
      or_false, false_or] at hclosing
    rw [hclosing.1]
    split <;> exact .inl rfl

end Names

end Run.Surroundings

namespace World

section Names

variable (progress : Progress) (w : World)

theorem name_make (call : Exchange) :
    (w.make progress call).2.clipboard.name = w.clipboard.name := by
  rcases call.copy_or_quiet with ⟨text, result, rfl⟩ | hquiet
  · cases hclipboard : w.clipboard with
    | memory memory =>
      rw [make_copy_memory progress hclipboard]
      split
      · exact congrArg Clipboard.name hclipboard
      · rfl
    | tool tool =>
      rw [make_copy_tool progress hclipboard]
      exact congrArg Clipboard.name hclipboard
  · rw [(w.make_quiet progress hquiet).clipboard]

theorem name_after (calls : History) :
    (w.after progress calls).clipboard.name = w.clipboard.name := by
  induction calls using List.reverseRecOn with
  | nil => rfl
  | append_singleton past call ih => rw [after_concat, name_make, ih]

variable {w} in
/-- An error of a write names the clipboard at most. -/
theorem names_answer {text : String} {error : CopyError} (h : w.answer text = .error error) :
    NamesOnly w.clipboard.name error.named := by
  unfold answer at h
  cases hclipboard : w.clipboard with
  | memory memory =>
    rw [Rehearsal.copy_run_memory hclipboard] at h
    split at h
    · next result hresult =>
      split at hresult
      · cases hresult
      · exact .inl (Memory.named_eq_nil ((Except.ok.inj hresult).trans h))
    · cases h
  | tool tool =>
    rw [Rehearsal.copy_run_tool hclipboard] at h
    cases houtcome : w.outcomes.head? with
    | none => simp [houtcome] at h
    | some outcome =>
      cases outcome with
      | failed failure =>
        simp only [houtcome, Except.error.injEq] at h
        exact .inr (h ▸ rfl)
      | done | crashed => simp [houtcome] at h

/-- The notices of a rehearsal name the clipboard at most. -/
theorem names_history {s : Settings} {notice : Notice} {report : Report}
    (hmem : .tell notice report ∈ (w.surroundings progress).history s) :
    NamesOnly w.clipboard.name notice.named := by
  refine Surroundings.names_history (fun past text error herror => ?_) hmem
  have hnames := names_answer herror
  rwa [name_after] at hnames

end Names

/-! ### What has been printed -/

section Printed

variable (showing : Showing) (w : World)

/-- Only a notice is printed. -/
theorem printed_make (call : Exchange) :
    (w.make (.printed showing) call).2.printed = w.printed ++ call.lines showing := by
  cases call with
  | now moment =>
    rw [make_now]
    cases later w.time w.step <;> exact (List.append_nil _).symm
  | sleep seconds =>
    rw [make_sleep]
    cases pause seconds >>= later w.time <;> exact (List.append_nil _).symm
  | copy text result =>
    cases hclipboard : w.clipboard with
    | memory memory =>
      rw [make_copy_memory _ hclipboard]
      split <;> exact (List.append_nil _).symm
    | tool tool =>
      rw [make_copy_tool _ hclipboard]
      exact (List.append_nil _).symm
  | tell notice report =>
    rw [make_tell, Exchange.lines]
    dsimp only
    cases showing notice report with
    | error error => exact (List.append_nil _).symm
    | ok lines => rfl

theorem printed_after (calls : History) :
    (w.after (.printed showing) calls).printed = w.printed ++ calls.flatMap (·.lines showing) := by
  induction calls using List.reverseRecOn with
  | nil => exact (List.append_nil _).symm
  | append_singleton past call ih =>
    rw [after_concat, printed_make, ih, List.flatMap_append, List.flatMap_singleton,
      List.append_assoc]

/-- **What a rehearsal has printed** when it ends in a report are the lines of all its calls. -/
theorem rehearse_printed {s : Settings} {report : Report}
    (h : (w.rehearse (.printed showing) s).1 = .ok report) :
    let env := w.surroundings (.printed showing)
    report = env.report s ∧
      (w.rehearse (.printed showing) s).2.printed =
        w.printed ++ (env.history s).flatMap (·.lines showing) := by
  obtain ⟨made, -, ⟨logs, hworld⟩, -, hreport⟩ := w.rehearse_made (.printed showing) s
  obtain ⟨rfl, hsame⟩ := hreport report h
  refine ⟨hsame, ?_⟩
  rw [hworld]
  exact w.printed_after showing _

variable {w} {showing} in
/-- A call ends with an error of the console only if it is a notice that cannot be shown. -/
theorem tell_of_make_markup {call : Exchange} {error : Markup.Error}
    (h : (w.make (.printed showing) call).1 = .error (.markup error)) :
    ∃ notice report, call = .tell notice report ∧ showing notice report = .error error := by
  cases call with
  | now moment =>
    rw [make_now] at h
    cases hlater : later w.time w.step <;> simp [hlater] at h
  | sleep seconds =>
    rw [make_sleep] at h
    cases hlater : pause seconds >>= later w.time <;> simp [hlater] at h
  | copy text result =>
    cases hclipboard : w.clipboard with
    | memory memory =>
      rw [make_copy_memory _ hclipboard] at h
      split at h <;> cases h
    | tool tool =>
      rw [make_copy_tool _ hclipboard] at h
      dsimp only at h
      split at h <;> cases h
  | tell notice report =>
    refine ⟨notice, report, rfl, ?_⟩
    rw [make_tell] at h
    cases hlines : showing notice report with
    | error error' =>
      simp only [hlines, Except.error.injEq, Crash.markup.injEq] at h
      rw [h]
    | ok lines => simp [hlines] at h

variable {showing} in
/-- The console ends no rehearsal whose notices can be shown. -/
theorem rehearse_ne_markup (hshows : Rehearsal.Shows w.clipboard.name (.printed showing))
    (s : Settings) (error : Markup.Error) :
    (w.rehearse (.printed showing) s).1 ≠ .error (.markup error) := by
  intro h
  obtain ⟨past, call, hcall, hcrash⟩ := w.exists_make_of_error _ h
  obtain ⟨notice, report, rfl, herror⟩ := tell_of_make_markup hcrash
  obtain ⟨lines, hlines⟩ := hshows notice report (w.names_history _ hcall)
  exact nomatch herror.symm.trans hlines

variable {showing} in
/-- A rehearsal whose header cannot be shown ends there, unless the clock ends it before. -/
theorem rehearse_of_header_error {s : Settings} {time : Moment} {error : Markup.Error}
    (htime : later w.time w.step = .ok time)
    (hheader : ∀ report,
      showing (.started s.count s.delay w.clipboard.name) report = .error error) :
    w.rehearse (.printed showing) s =
      (.error (.markup error), { w.record (.now w.time) with time := time }) := by
  have hnow := Rehearsal.now_run w
  rw [htime] at hnow
  have htell := Rehearsal.tell_run (.printed showing) { w.record (.now w.time) with time := time }
    (.started s.count s.delay w.clipboard.name) (.empty s.count w.time)
  simp only [hheader] at htell
  exact (Fallible.run_bind_ok hnow).trans (Fallible.run_bind_error htell)

end Printed

/-! ### What is printed changes nothing -/

def unprinted (w : World) : World := { w with printed := [] }

end World

namespace Rehearsal

/-- Actions with the same result in worlds that differ in what has been printed, and that lead to
such worlds. -/
def Alike {α : Type} (x y : Rehearsal α) : Prop :=
  ∀ w w' : World, w.unprinted = w'.unprinted →
    (x.run w).1 = (y.run w').1 ∧ (x.run w).2.unprinted = (y.run w').2.unprinted

theorem Alike.bind {α β : Type} {x y : Rehearsal α} {f g : α → Rehearsal β} (hxy : Alike x y)
    (hfg : ∀ a, Alike (f a) (g a)) : Alike (x >>= f) (y >>= g) := by
  intro w w' hworlds
  obtain ⟨hresult, hafter⟩ := hxy w w' hworlds
  rcases hx : x.run w with ⟨result, v⟩
  rcases hy : y.run w' with ⟨result', v'⟩
  rw [hx, hy] at hresult hafter
  obtain rfl : result = result' := hresult
  cases result with
  | error crash =>
    rw [Fallible.run_bind_error hx, Fallible.run_bind_error hy]
    exact ⟨rfl, hafter⟩
  | ok a =>
    rw [Fallible.run_bind_ok hx, Fallible.run_bind_ok hy]
    exact hfg a v v' hafter

/-- An action that does not look at what has been printed. -/
theorem alike_self {α : Type} {action : Rehearsal α}
    (h : ∀ w : World, action.run w.unprinted =
      ((action.run w).1, (action.run w).2.unprinted)) : Alike action action := by
  intro w w' hworlds
  have hfirst := h w
  rw [hworlds, h w'] at hfirst
  exact ⟨(congrArg Prod.fst hfirst).symm, (congrArg Prod.snd hfirst).symm⟩

def showingAlike : Simulation Rehearsal Rehearsal where
  Rel := Alike
  pure _ _ _ hworlds := ⟨rfl, hworlds⟩
  bind := Alike.bind

theorem now_alike : Alike now now := by
  refine alike_self fun w => ?_
  have hlater : World.later w.unprinted.time w.unprinted.step = World.later w.time w.step := rfl
  rw [now_run, now_run, hlater]
  cases World.later w.time w.step <;> rfl

theorem sleep_alike (seconds : Binary64) : Alike (sleep seconds) (sleep seconds) := by
  refine alike_self fun w => ?_
  have htime : w.unprinted.time = w.time := rfl
  rw [sleep_run, sleep_run, htime]
  cases World.pause seconds >>= World.later w.time <;> rfl

theorem copy_alike (text : String) : Alike (copy text) (copy text) := by
  refine alike_self fun w => ?_
  cases hclipboard : w.clipboard with
  | memory memory =>
    have hcrash : w.unprinted.crashOn = w.crashOn := rfl
    rw [copy_run_memory hclipboard, copy_run_memory (w := w.unprinted) hclipboard, hcrash]
    split <;> rfl
  | tool tool =>
    have houtcomes : w.unprinted.outcomes = w.outcomes := rfl
    rw [copy_run_tool hclipboard, copy_run_tool (w := w.unprinted) hclipboard, houtcomes]
    rcases w.outcomes.head? with _ | _ | _ | _ <;> rfl

theorem tell_alike {first second : Showing} (hagree : first.Agrees second) (notice : Notice)
    (report : Report) :
    Alike (tell (.printed first) notice report) (tell (.printed second) notice report) := by
  intro w w' hworlds
  have hsame := hagree notice report
  rw [tell_run, tell_run]
  cases hfirst : first notice report with
  | error error =>
    cases hsecond : second notice report with
    | error error' =>
      rw [hfirst, hsecond] at hsame
      obtain rfl : error = error' := Except.error.inj hsame
      simp only [hfirst, hsecond]
      exact ⟨trivial, hworlds⟩
    | ok lines' =>
      rw [hfirst, hsecond] at hsame
      cases hsame
  | ok lines =>
    cases hsecond : second notice report with
    | error error' =>
      rw [hfirst, hsecond] at hsame
      cases hsame
    | ok lines' =>
      simp only [hfirst, hsecond]
      exact ⟨trivial, hworlds⟩

theorem showing_links {first second : Showing} (hagree : first.Agrees second)
    (clipboard : Clipboard) :
    showingAlike.Links (ports clipboard (.printed first)) (ports clipboard (.printed second)) where
  clipboard := rfl
  now := now_alike
  sleep := sleep_alike
  copy := copy_alike
  stopped := alike_self fun _ => rfl
  tell := tell_alike hagree
  log _ := alike_self fun _ => rfl

end Rehearsal

/-- **How notices are shown makes no difference** to the result of a rehearsal, as long as the same
ones can be shown. -/
theorem World.rehearse_showing {first second : Showing} (hagree : first.Agrees second) (w : World)
    (s : Settings) :
    (w.rehearse (.printed first) s).1 = (w.rehearse (.printed second) s).1 :=
  (Simulation.run (Rehearsal.showing_links hagree w.clipboard) s w w rfl).1

/-! ### Notices on the console -/

theorem NamesOnly.canPrint {clipboard name : RawText} {width : Nat} (h : NamesOnly clipboard name)
    (hclipboard : canPrint width clipboard = true) : canPrint width name = true := by
  rcases h with rfl | rfl
  · exact canPrint_nil width
  · exact hclipboard

theorem shows_progress {clipboard : RawText} {width : Nat} (h : canPrint width clipboard = true)
    (summary : Bool) : Rehearsal.Shows clipboard (.printed (progress width summary)) :=
  fun _ report hnames => progress_ok summary (hnames.canPrint h) report

/-- **A name that cannot be printed** ends a rehearsal at its header, before anything is shown or
written. -/
theorem World.rehearse_unprintable (w : World) {width : Nat} (summary : Bool)
    (hname : canPrint width w.clipboard.name = false) {time : Moment}
    (htime : later w.time w.step = .ok time) (s : Settings) :
    w.rehearse (.printed (progress width summary)) s =
      (.error (.markup .unencodable), { w.record (.now w.time) with time := time }) :=
  w.rehearse_of_header_error htime fun report =>
    progress_unencodable summary (.started s.count s.delay w.clipboard.name) hname report

end ClipCadence
