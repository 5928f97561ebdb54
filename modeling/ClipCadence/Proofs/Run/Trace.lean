import ClipCadence.Proofs.Run.Course

/-!
The calls of a run, exactly. Around the events stand a look at the clock and the notice of the
start before them, a look at the clock and the notice of the end after them. Each event is a
notice, a look at the clock and a write; a failed write is told, and a pause follows where the
settings want one.

Main statement: `calls_exactly`, for all surroundings and settings.
-/

namespace ClipCadence.Run

open Number Text

section Pauses

variable (s : Settings) (start : Moment)

theorem isCopy_complaint (past : List Reply) (reply : Reply) :
    ∀ call ∈ complaint s start past reply, call.isCopy = false := by
  unfold complaint
  split <;> simp [Exchange.isCopy]

theorem isCopy_pauseAfter (index : Nat) : ∀ call ∈ pauseAfter s index, call.isCopy = false := by
  unfold pauseAfter
  split <;> simp [Exchange.isCopy]

/-- The pauses between the writes of some events, and before the first and after the last one. A
write cuts the calls of its event in two, so what the induction carries along is the part of them
that comes after the write. -/
theorem pauses_between_rounds (past next : List Reply) (before after : History)
    (hbefore : ∀ call ∈ before, call.isCopy = false)
    (hafter : ∀ call ∈ after, call.isCopy = false) (hquiet : pauses after = []) :
    ((before ++ rounds s start past next ++ after).splitOnP Exchange.isCopy).map pauses =
      pauses before ::
        (List.range' (past.length + 1) next.length).map fun index =>
          pauses (pauseAfter s index) := by
  induction next generalizing past before with
  | nil =>
    have hnone : ∀ call ∈ before ++ after, call.isCopy = false :=
      List.forall_mem_append.mpr ⟨hbefore, hafter⟩
    rw [rounds, List.append_nil, List.splitOnP_eq_singleton hnone]
    simp [pauses_append, hquiet]
  | cons reply next ih =>
    -- The notice and the look at the clock still belong to the stretch before the write; the
    -- notice of a failure and the pause open the stretch after it.
    let ahead : History :=
      [.tell (.copying (past.length + 1)) (account s start (written s past)), .now reply.moment]
    let rest := complaint s start past reply ++ pauseAfter s (past.length + 1)
    let write : Exchange := .copy (wording s (past.length + 1) reply.moment) reply.result
    have hcalls : before ++ rounds s start past (reply :: next) ++ after =
        (before ++ ahead) ++ write ::
          (rest ++ rounds s start (past ++ [reply]) next ++ after) := by
      simp [rounds, round, trial, ahead, rest, write]
    have hahead : ∀ call ∈ before ++ ahead, call.isCopy = false :=
      List.forall_mem_append.mpr ⟨hbefore, by simp [ahead, Exchange.isCopy]⟩
    have hrest : ∀ call ∈ rest, call.isCopy = false :=
      List.forall_mem_append.mpr
        ⟨isCopy_complaint s start past reply, isCopy_pauseAfter s (past.length + 1)⟩
    have hquietAhead : pauses (before ++ ahead) = pauses before := by
      rw [pauses_append]
      show pauses before ++ [] = pauses before
      rw [List.append_nil]
    have hpause : pauses rest = pauses (pauseAfter s (past.length + 1)) := by
      rw [pauses_append, pauses_complaint, List.nil_append]
    rw [hcalls, List.splitOnP_append_cons_of_forall_mem hahead write rfl, List.map_cons,
      ih (past ++ [reply]) rest hrest, hquietAhead, hpause, List.length_cons, List.range'_succ,
      List.length_append, List.length_singleton, List.map_cons]

end Pauses

/-- **The calls of a run.** They are the calls up to the check after some number of events, in
ascending order of the events, then a look at the clock and the notice of the end. All of them
are answered by the surroundings. The events are those that the run comes to before it finds itself
told to stop, and all that the settings ask for if it never does. Before the first write there is
no pause; after the write of each event, up to the next one, there is one pause of the length that
the settings say if that is positive, but none after the last event if the settings skip it. -/
theorem calls_exactly (env : Surroundings) (s : Settings) :
    ∃ replies : List Reply,
      let start := env.now []
      let calls := approach env.clipboard s start replies
      env.history s = calls ++ closing (env.now calls) (env.report s) ∧
      Along env.Gives [] (env.history s) ∧
      replies.length ≤ s.count ∧
      (∀ n < replies.length,
        env.told (approach env.clipboard s start (replies.take n)) = false) ∧
      (replies.length < s.count → env.told calls = true) ∧
      begun (env.history s) = List.range' 1 replies.length ∧
      ((env.history s).splitOnP Exchange.isCopy).map pauses =
        [] :: (List.range' 1 replies.length).map fun index =>
          if s.delay.isPositive ∧ ¬(index = s.count ∧ s.skipFinalDelay) then [s.delay] else [] := by
  obtain ⟨replies, hr, -, hhistory, -⟩ := env.course s
  let start := env.now []
  refine ⟨replies, hhistory, ?answered, hr.length_le, hr.untold, hr.told, ?indices, ?pauses⟩
  case answered =>
    have hopening : Along env.Gives [] (opening env.clipboard s start) := by
      simp [opening, start, Surroundings.Gives]
    rw [hhistory, along_append, approach, along_append]
    exact ⟨⟨hopening, hr.answered⟩, by simp [closing, Surroundings.Gives]⟩
  case indices =>
    rw [hhistory, begun_append, begun_approach, begun_closing, List.append_nil]
  case pauses =>
    have hpauses := pauses_between_rounds s start [] replies (opening env.clipboard s start)
      (closing (env.now (approach env.clipboard s start replies)) (env.report s))
      (by simp [opening, Exchange.isCopy]) (by simp [closing, Exchange.isCopy]) rfl
    simp only [pauses_pauseAfter] at hpauses
    rw [hhistory]
    exact hpauses

end ClipCadence.Run
