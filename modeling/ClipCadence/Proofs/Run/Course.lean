import ClipCadence.Proofs.Run.Script

/-!
A run keeps to the script. Which events it comes to follows from the replies of the surroundings and
from when they tell it to stop: `Surroundings.Replied` says that no check before one of these
events finds the run told, and that the check after the last one does, unless all events have been
attempted.

Main statement: `Surroundings.course`, for all surroundings and settings. It rests on one lemma for
an attempt, one for a pause and, by induction on the number of events that remain, one for the loop.
-/

namespace ClipCadence.Run

open Number Text

/-! ### Calls -/

theorem run_bind_eq {α β : Type} {action : StateM History α} {next : α → StateM History β}
    {h after : History} {a : α} (ha : action.run h = (a, after)) :
    (action >>= next).run h = (next a).run after := by
  rw [StateT.run_bind, ha]
  rfl

namespace Surroundings

section Calls

variable (env : Surroundings) (h : History)

theorem run_now : env.ports.now.run h = (env.now h, h ++ [.now (env.now h)]) := rfl

theorem run_copy (text : String) :
    (env.ports.copy text).run h = (env.copy h text, h ++ [.copy text (env.copy h text)]) := rfl

theorem run_stopped : env.ports.stopped.run h = (env.told h, h) := rfl

theorem run_tell (notice : Notice) (report : Report) :
    (env.ports.tell notice report).run h = ((), h ++ [.tell notice report]) := rfl

theorem run_log (record : Log.Record) : (env.ports.log record).run h = ((), h) := rfl

end Calls

/-! ### One event -/

section Event

variable (env : Surroundings) (s : Settings) (start : Moment)

/-- The reply to the attempt after some others. -/
def reply (past : List Reply) (h : History) : Reply :=
  let index := past.length + 1
  let asked := h ++ [.tell (.copying index) (account s start (written s past))]
  let moment := env.now asked
  ⟨moment, env.copy (asked ++ [.now moment]) (wording s index moment)⟩

/-- An attempt gets the reply of the surroundings and makes the calls that go with it. -/
theorem attempt_run (past : List Reply) (h : History) :
    (attempt env.ports s.label (past.length + 1) (account s start (written s past))).run h =
      (account s start (written s (past ++ [env.reply s start past h])),
        h ++ trial s start past (env.reply s start past h)) := by
  rcases hr : env.reply s start past h with ⟨moment, result⟩
  simp only [reply, Reply.mk.injEq] at hr
  obtain ⟨hnow, hcopy⟩ := hr
  rw [hnow] at hcopy
  have htrial : h ++ trial s start past ⟨moment, result⟩ =
      h ++ [.tell (.copying (past.length + 1)) (account s start (written s past))] ++
        [.now moment] ++ [.copy (wording s (past.length + 1) moment) result] ++
          complaint s start past ⟨moment, result⟩ := by
    simp [trial]
  -- Only what follows the write depends on its result.
  rw [attempt, run_bind_eq (env.run_tell _ _ _), run_bind_eq (env.run_now _), hnow, make_eq,
    run_bind_eq (env.run_copy _ _), hcopy, htrial, written_append_singleton, Reply.write]
  cases result with
  | ok done =>
    cases done
    rw [account_append_ok, complaint, List.append_nil]
    exact run_bind_eq (env.run_log _ _)
  | error error =>
    rw [complaint, written_append_singleton, Reply.write, account_append_error, length_written]
    refine (run_bind_eq (env.run_log _ _)).trans ?_
    exact run_bind_eq (env.run_tell _ _ _)

theorem pauseAfter_eq (index : Nat) :
    pauseAfter s index = if pausesAfter s index then [.sleep s.delay] else [] := by
  simp [pauseAfter, pausesAfter, imp_iff_not_or]

/-- A pause, if there is one after an event, and what comes next. -/
theorem pause_run {α : Type} (index : Nat) (next : StateM History α) (h : History) :
    (if pausesAfter s index then do env.ports.sleep s.delay; next else next).run h =
      next.run (h ++ pauseAfter s index) := by
  rw [pauseAfter_eq]
  cases pausesAfter s index with
  | true => rfl
  | false => rw [if_neg Bool.false_ne_true, if_neg Bool.false_ne_true, List.append_nil]

theorem answered_round (past : List Reply) (h : History) :
    Along env.Gives h (round s start past (env.reply s start past h)) := by
  have hcomplaint (before : History) (reply : Reply) :
      Along env.Gives before (complaint s start past reply) := by
    unfold complaint
    split <;> simp [Gives]
  have hpause (before : History) (index : Nat) : Along env.Gives before (pauseAfter s index) := by
    unfold pauseAfter
    split <;> simp [Gives]
  simp [round, trial, Gives, reply, hcomplaint, hpause]

end Event

/-! ### All events -/

/-- What the surroundings reply to the events after some others, of which there are at most `most`:
the run is told to stop at no check before one of them, and at the check after the last one if
there are fewer. -/
structure Replied (env : Surroundings) (s : Settings) (start : Moment) (past : List Reply)
    (h : History) (most : Nat) (replies : List Reply) : Prop where
  length_le : replies.length ≤ most
  answered : Along env.Gives h (rounds s start past replies)
  untold : ∀ n < replies.length, env.told (h ++ rounds s start past (replies.take n)) = false
  told : replies.length < most → env.told (h ++ rounds s start past replies) = true

namespace Replied

variable {env : Surroundings} {s : Settings} {start : Moment} {past replies : List Reply}
  {h : History} {most : Nat}

/-- One more event in front, if the check before it finds the run not told to stop. -/
theorem cons (hu : env.told h = false)
    (hr : env.Replied s start (past ++ [env.reply s start past h])
      (h ++ round s start past (env.reply s start past h)) most replies) :
    env.Replied s start past h (most + 1) (env.reply s start past h :: replies) where
  length_le := Nat.succ_le_succ hr.length_le
  answered := by
    rw [rounds, along_append]
    exact ⟨env.answered_round s start past h, hr.answered⟩
  untold n hn := by
    cases n with
    | zero => rwa [List.take_zero, rounds, List.append_nil]
    | succ n =>
      rw [List.take_succ_cons, rounds, ← List.append_assoc]
      exact hr.untold n (Nat.lt_of_succ_lt_succ hn)
  told hn := by
    rw [rounds, ← List.append_assoc]
    exact hr.told (Nat.lt_of_succ_lt_succ hn)

/-- A run that has not been told to stop by the end attempts all events. -/
theorem length_eq (hr : env.Replied s start past h most replies)
    (hu : env.told (h ++ rounds s start past replies) = false) : replies.length = most :=
  hr.length_le.antisymm <| Nat.le_of_not_lt fun hlt =>
    Bool.noConfusion (hu.symm.trans (hr.told hlt))

end Replied

section Run

variable (env : Surroundings) (s : Settings)

/-- The loop, by induction on the number of events that remain. The report it starts from is the
account of the writes made so far, so that an attempt leads to a report of the same kind. -/
theorem events_run (start : Moment) (most : Nat) (past : List Reply) (h : History) :
    ∃ replies, env.Replied s start past h most replies ∧
      (events env.ports s most (past.length + 1) (account s start (written s past))).run h =
        ({ account s start (written s (past ++ replies)) with
            cancelled := decide (replies.length < most) },
          h ++ rounds s start past replies) := by
  induction most generalizing past h with
  | zero =>
    refine ⟨[], ⟨le_rfl, trivial, by simp, by simp⟩, ?_⟩
    rw [rounds, List.append_nil, List.append_nil]
    rfl
  | succ most ih =>
    rw [events, run_bind_eq (env.run_stopped h)]
    cases ht : env.told h with
    | true =>
      refine ⟨[], ⟨Nat.zero_le _, trivial, by simp, fun _ => ?_⟩, ?_⟩
      · rwa [rounds, List.append_nil]
      · rw [rounds, List.append_nil, List.append_nil]
        exact run_bind_eq (env.run_log _ _)
    | false =>
      let reply := env.reply s start past h
      obtain ⟨replies, hr, hrun⟩ := ih (past ++ [reply]) (h ++ round s start past reply)
      refine ⟨reply :: replies, hr.cons ht, ?_⟩
      rw [List.length_append, List.length_singleton, List.append_assoc past,
        List.append_assoc h] at hrun
      rw [if_neg Bool.false_ne_true, run_bind_eq (env.attempt_run s start past h), pause_run,
        List.append_assoc h, rounds]
      simp only [List.length_cons, Nat.add_lt_add_iff_right]
      exact hrun

/-- After the events a run is cancelled if and only if it has been told to stop by then. -/
theorem lateStop_run (report : Report) (h : History) (hr : report.cancelled → env.told h) :
    (lateStop env.ports report).run h = ({ report with cancelled := env.told h }, h) := by
  cases hc : report.cancelled with
  | true =>
    -- The events were broken off because the run had been told, so the flag says nothing new.
    rw [lateStop, if_pos hc, hr hc, ← hc]
    rfl
  | false =>
    rw [lateStop, if_neg (by simp [hc]), run_bind_eq (env.run_stopped h)]
    cases env.told h with
    | true => rfl
    | false =>
      have same : { report with cancelled := false } = report := by rw [← hc]
      rw [same]
      rfl

/-- What a run logs about its failures changes nothing. -/
theorem logFailures_run (report : Report) (h : History) :
    (do if report.failed ≠ 0 then env.ports.log (failures report)
        return report : StateM History Report).run h = (report, h) := by
  split <;> rfl

/-- **The course of a run.** A run makes the calls up to the check after its last event, looks at
the clock and says how it ended. -/
theorem course :
    ∃ replies,
      let start := env.now []
      let calls := approach env.clipboard s start replies
      let finish := env.now calls
      env.Replied s start [] (opening env.clipboard s start) s.count replies ∧
        env.report s = conclusion s start replies (env.told calls) finish ∧
        env.history s = calls ++ closing finish (env.report s) ∧
        writes (env.history s) = written s replies := by
  obtain ⟨replies, hr, hrun⟩ :=
    env.events_run s (env.now []) s.count [] (opening env.clipboard s (env.now []))
  let start := env.now []
  let calls := approach env.clipboard s start replies
  let finish := env.now calls
  let report := conclusion s start replies (env.told calls) finish
  have hlate := env.lateStop_run
    { account s start (written s replies) with cancelled := decide (replies.length < s.count) }
    calls fun hc => hr.told (of_decide_eq_true hc)
  have hclosing : calls ++ closing finish report =
      calls ++ [.now finish] ++ [.tell (outcome report) report] := by
    rw [List.append_assoc]
    rfl
  have hperform : env.perform s = (report, calls ++ closing finish report) := by
    rw [perform, run, run_bind_eq (env.run_now []), run_bind_eq (env.run_tell _ _ _),
      run_bind_eq (env.run_log _ _), hclosing]
    refine (run_bind_eq hrun).trans ((run_bind_eq hlate).trans ?_)
    refine (run_bind_eq (env.run_now calls)).trans ?_
    refine (run_bind_eq (env.run_tell _ (outcome report) report)).trans ?_
    exact env.logFailures_run report _
  have hreport : env.report s = report := congrArg Prod.fst hperform
  have hhistory : env.history s = calls ++ closing finish (env.report s) := by
    rw [hreport]
    exact congrArg Prod.snd hperform
  refine ⟨replies, hr, hreport, hhistory, ?_⟩
  rw [hhistory, writes_append_closing]

/-- A run that is not cancelled attempts all events. -/
theorem attempted_report (h : (env.report s).cancelled = false) :
    (env.report s).attempted = s.count := by
  obtain ⟨replies, hr, hreport, -, -⟩ := env.course s
  rw [hreport] at h ⊢
  exact (length_written s replies).trans (hr.length_eq h)

/-- All calls of a run are answered by its surroundings. -/
theorem gives_history : Along env.Gives [] (env.history s) := by
  obtain ⟨replies, hr, -, hhistory, -⟩ := env.course s
  have happroach : Along env.Gives [] (approach env.clipboard s (env.now []) replies) := by
    rw [approach, along_append]
    exact ⟨⟨rfl, trivial, trivial⟩, hr.answered⟩
  rw [hhistory, along_append]
  exact ⟨happroach, rfl, trivial, trivial⟩

end Run

end Surroundings

end ClipCadence.Run
