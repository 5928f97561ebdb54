import ClipCadence.Proofs.Run.Course

/-!
The report of a run and the writes that the run has made. Each attempt is recorded once, as a
success or as a failure, so the numbers of a report add up, and every failure in it is one of the
writes, word for word.

Main statement: `report_accounts_for_writes`, at every notice and at the end of every run.
-/

namespace ClipCadence.Run

open Number Text

/-- A report that accounts for some writes: it counts them all, each as a success or as a failure;
the kinds it has seen add up to the successes; and the failures are listed in the order of their
writes, with the text that was to be written and the error. -/
structure Accounts (s : Settings) (ws : List Write) (report : Report) : Prop where
  requested : report.requested = s.count
  attempted : report.attempted = ws.length
  attempted_le : report.attempted ≤ s.count
  balance : report.attempted = report.succeeded + report.failures.length
  succeeded : report.succeeded = ws.countP Write.succeeds
  tally_pos : ∀ entry ∈ report.tally, 1 ≤ entry.2
  tally_total : report.tally.total = report.succeeded
  increasing : report.failures.Pairwise (·.index < ·.index)
  failures : ∀ failure ∈ report.failures, ∃ n write error,
    failure.index = (n + 1 : Nat) ∧ n < report.attempted ∧ ws[n]? = some write ∧
      write.text = failure.payload ∧ write.result = .error error ∧ error.message = failure.error

/-! ### One more write -/

theorem Tally.pos_add {tally : Tally} (h : ∀ entry ∈ tally, 1 ≤ entry.2) (kind : ContentType) :
    ∀ entry ∈ tally.add kind, 1 ≤ entry.2 := by
  induction tally with
  | nil => simp [Tally.add]
  | cons first rest ih =>
    obtain ⟨seen, count⟩ := first
    obtain ⟨hfirst, hrest⟩ := List.forall_mem_cons.mp h
    rw [Tally.add]
    split
    · exact List.forall_mem_cons.mpr ⟨Nat.le_add_left 1 count, hrest⟩
    · exact List.forall_mem_cons.mpr ⟨hfirst, ih hrest⟩

theorem accounts_empty (s : Settings) (start : Option Moment) :
    Accounts s [] (Report.empty s.count start) := by
  constructor <;> simp [Report.empty, Tally.total]

section Record

variable {s : Settings} {ws : List Write} {report : Report}

theorem Accounts.recordSuccess (h : Accounts s ws report) (hroom : ws.length < s.count)
    (moment : Option Moment) (text : String) (kind : ContentType) :
    Accounts s (ws ++ [⟨moment, text, .ok ()⟩]) (report.recordSuccess kind) where
  requested := h.requested
  attempted := by simp [Report.recordSuccess, h.attempted]
  attempted_le := by
    have := h.attempted
    simp only [Report.recordSuccess]
    omega
  balance := by
    have := h.balance
    simp only [Report.recordSuccess]
    omega
  succeeded := by
    simp [Report.recordSuccess, h.succeeded, Write.succeeds, Except.isOk, Except.toBool]
  tally_pos := Tally.pos_add h.tally_pos kind
  tally_total := by simp [Report.recordSuccess, h.tally_total]
  increasing := h.increasing
  failures failure hf := by
    obtain ⟨n, write, error, hindex, hn, hwrite, hrest⟩ := h.failures failure hf
    refine ⟨n, write, error, hindex, Nat.lt_succ_of_lt hn, ?_, hrest⟩
    rw [List.getElem?_append_left (h.attempted ▸ hn), hwrite]

theorem Accounts.recordFailure (h : Accounts s ws report) (hroom : ws.length < s.count)
    (moment : Option Moment) (text : String) (error : CopyError) :
    Accounts s (ws ++ [⟨moment, text, .error error⟩])
      (report.recordFailure ⟨(ws.length + 1 : Nat), text, error.message⟩) where
  requested := h.requested
  attempted := by simp [Report.recordFailure, h.attempted]
  attempted_le := by
    have := h.attempted
    simp only [Report.recordFailure]
    omega
  balance := by
    have := h.balance
    simp only [Report.recordFailure, List.length_append, List.length_singleton]
    omega
  succeeded := by
    simp [Report.recordFailure, h.succeeded, Write.succeeds, Except.isOk, Except.toBool]
  tally_pos := h.tally_pos
  tally_total := h.tally_total
  increasing := by
    refine List.pairwise_append.mpr ⟨h.increasing, List.pairwise_singleton _ _, ?_⟩
    intro earlier he later hl
    obtain ⟨n, -, -, hindex, hn, -⟩ := h.failures earlier he
    rw [List.mem_singleton.mp hl, hindex]
    -- Earlier failures belong to earlier writes.
    have := h.attempted
    exact Int.ofNat_lt.mpr (by omega)
  failures failure hf := by
    rcases List.mem_append.mp hf with hf | hf
    · obtain ⟨n, write, error, hindex, hn, hwrite, hrest⟩ := h.failures failure hf
      refine ⟨n, write, error, hindex, Nat.lt_succ_of_lt hn, ?_, hrest⟩
      rw [List.getElem?_append_left (h.attempted ▸ hn), hwrite]
    · rw [List.mem_singleton.mp hf]
      exact ⟨ws.length, ⟨moment, text, .error error⟩, error, rfl,
        h.attempted ▸ Nat.lt_succ_self _, List.getElem?_concat_length, rfl, rfl, rfl⟩

end Record

theorem accounts_account (s : Settings) (start : Moment) {ws : List Write}
    (hroom : ws.length ≤ s.count) : Accounts s ws (account s start ws) := by
  induction ws using List.reverseRecOn with
  | nil => exact accounts_empty s (some start)
  | append_singleton ws write ih =>
    rw [List.length_append, List.length_singleton] at hroom
    have before := ih (Nat.le_of_succ_le hroom)
    obtain ⟨moment, text, result⟩ := write
    cases result with
    | ok done =>
      rw [account_append_ok]
      exact before.recordSuccess hroom moment text _
    | error error =>
      rw [account_append_error]
      exact before.recordFailure hroom moment text error

/-! ### Every notice -/

/-- How far a report has come when it is told with a notice. -/
def Stage (final : Report) : Notice → Report → Prop
  | .started .., report => report.attempted = 0
  | .copying index, report => report.attempted + 1 = index
  | .failed event _, report => report.attempted = event.index
  | .finished, report => report = final
  | .interrupted, report => report = final

/-- What holds of a report that is told after some calls. -/
def Reported (s : Settings) (final : Report) (past : History) : Exchange → Prop
  | .tell notice report => Accounts s (writes past) report ∧ Stage final notice report
  | _ => True

section Notices

variable (s : Settings) (start : Moment) (final : Report)

theorem accounts_written {replies : List Reply} (hroom : replies.length ≤ s.count) :
    Accounts s (written s replies) (account s start (written s replies)) :=
  accounts_account s start (by rwa [length_written])

theorem reported_pauseAfter (past : History) (index : Nat) :
    Along (Reported s final) past (pauseAfter s index) := by
  unfold pauseAfter
  split <;> simp [Reported]

theorem reported_complaint {past : List Reply} {before : History} {reply : Reply}
    (hroom : past.length < s.count) (hwrites : writes before = written s (past ++ [reply])) :
    Along (Reported s final) before (complaint s start past reply) := by
  unfold complaint
  split
  · trivial
  · have hlength : (past ++ [reply]).length = past.length + 1 := by simp
    refine ⟨⟨?_, ?_⟩, trivial⟩
    · rw [hwrites]
      exact accounts_written s start (by omega)
    · exact (length_written s (past ++ [reply])).trans hlength

theorem reported_round {past : List Reply} {before : History} (hroom : past.length < s.count)
    (hwrites : writes before = written s past) (reply : Reply) :
    Along (Reported s final) before (round s start past reply) := by
  have hattempted : (account s start (written s past)).attempted = past.length :=
    length_written s past
  rw [round, trial, along_append]
  refine ⟨⟨⟨?_, congrArg (· + 1) hattempted⟩, trivial, trivial, ?_⟩,
    reported_pauseAfter s final _ _⟩
  · rw [hwrites]
    exact accounts_written s start hroom.le
  -- A failure is told after its write, so the report told with it accounts for one write more.
  · refine reported_complaint s start final hroom ?_
    rw [written_append_singleton, ← hwrites]
    simp [writes, writesFrom_append, writesFrom, Reply.write]

theorem reported_rounds {past next : List Reply} {before : History}
    (hroom : past.length + next.length ≤ s.count) (hwrites : writes before = written s past) :
    Along (Reported s final) before (rounds s start past next) := by
  induction next generalizing past before with
  | nil => trivial
  | cons reply next ih =>
    rw [List.length_cons] at hroom
    rw [rounds, along_append]
    refine ⟨reported_round s start final (by omega) hwrites reply, ih ?_ ?_⟩
    · rw [List.length_append, List.length_singleton]
      omega
    · rw [writes, writesFrom_append, writesFrom_round, ← writes, hwrites,
        written_append_singleton]

theorem reported_opening (clipboard : RawText) :
    Along (Reported s final) [] (opening clipboard s start) :=
  ⟨trivial, ⟨accounts_empty s (some start), rfl⟩, trivial⟩

theorem reported_closing {calls : History} (haccounts : Accounts s (writes calls) final)
    (finish : Moment) : Along (Reported s final) calls (closing finish final) := by
  have hwrites : writes (calls ++ [.now finish]) = writes calls := by
    rw [writes, writesFrom_append]
    show writes calls ++ [] = writes calls
    rw [List.append_nil]
  refine ⟨trivial, ⟨?_, ?_⟩, trivial⟩
  · rwa [hwrites]
  · cases final.cancelled <;> rfl

end Notices

/-- **The accounts of a run.** At every notice the report accounts for the writes made before it,
and it has come as far as the notice says: it counts the events before the one that begins, or up
to the one that failed. The report of the end is the one that the run returns. That report
accounts for all writes, has both times, and is complete unless the run was cancelled. -/
theorem report_accounts_for_writes (env : Surroundings) (s : Settings) :
    (∀ before notice report after,
      env.history s = before ++ .tell notice report :: after →
        Accounts s (writes before) report ∧ Stage (env.report s) notice report) ∧
      Accounts s (writes (env.history s)) (env.report s) ∧
      ((env.report s).completed = true ↔ (env.report s).cancelled = false) ∧
      (env.report s).started.isSome = true ∧ (env.report s).finished.isSome = true := by
  obtain ⟨replies, hr, hreport, hhistory, hwritten⟩ := env.course s
  let start := env.now []
  let calls := approach env.clipboard s start replies
  have haccounts : Accounts s (written s replies) (env.report s) := by
    rw [hreport]
    exact { accounts_written s start hr.length_le with }
  have hreported : Along (Reported s (env.report s)) [] (env.history s) := by
    rw [hhistory, along_append, approach, along_append]
    refine ⟨⟨reported_opening s start _ _, reported_rounds s start _ ?_ rfl⟩, ?_⟩
    · simpa using hr.length_le
    · refine reported_closing s _ ?_ _
      rwa [← approach, List.nil_append, writes_approach]
  refine ⟨?told, hwritten ▸ haccounts, ?completed, by rw [hreport]; rfl, by rw [hreport]; rfl⟩
  case told =>
    intro before notice report after h
    rw [h] at hreported
    exact hreported.at
  case completed =>
    rw [Report.completed, Bool.and_eq_true, Bool.not_eq_true', decide_eq_true_eq]
    refine ⟨And.left, fun hc => ⟨hc, ?_⟩⟩
    rw [haccounts.requested, env.attempted_report s hc]

end ClipCadence.Run
