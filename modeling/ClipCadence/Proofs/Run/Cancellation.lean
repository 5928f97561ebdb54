import ClipCadence.Proofs.Run.Course

/-!
When a run that is told to stop ends. The run looks whether it has been told only before each event
and once after the last one, so the event that is under way goes on to its end, with the pause
after it, and no other event begins.

Main statement: `stops_after_current_event`, for every call during which the run can be told.
-/

namespace ClipCadence.Run

open Number Text

/-- The pauses of a run that attempts some number of events. -/
def pauseCount (s : Settings) (attempted : Nat) : Nat :=
  if s.delay.isPositive then
    if attempted = s.count ∧ s.skipFinalDelay then attempted - 1 else attempted
  else 0

section Calls

variable (clipboard : RawText) (s : Settings) (start : Moment)

theorem approach_append (first second : List Reply) :
    approach clipboard s start (first ++ second) =
      approach clipboard s start first ++ rounds s start first second := by
  rw [approach, approach, rounds_append, List.append_assoc, List.nil_append]

theorem approach_take_isPrefix (replies : List Reply) (n : Nat) :
    approach clipboard s start (replies.take n) <+: approach clipboard s start replies := by
  refine ⟨rounds s start (replies.take n) (replies.drop n), ?_⟩
  rw [← approach_append, List.take_append_drop]

/-- The calls after the check before an event begin with the notice of that event, the look at the
clock and the write. -/
theorem approach_eq_of_lt {replies : List Reply} {n : Nat} (hn : n < replies.length) :
    ∃ report after, approach clipboard s start replies =
      approach clipboard s start (replies.take n) ++ .tell (.copying (n + 1)) report ::
        .now replies[n].moment ::
          .copy (wording s (n + 1) replies[n].moment) replies[n].result :: after := by
  have hlength : (replies.take n).length = n := List.length_take_of_le hn.le
  have hsplit : replies = replies.take n ++ replies[n] :: replies.drop (n + 1) := by
    rw [← List.drop_eq_getElem_cons hn, List.take_append_drop]
  have happroach := approach_append clipboard s start (replies.take n)
    (replies[n] :: replies.drop (n + 1))
  rw [← hsplit, rounds, round, trial, hlength] at happroach
  exact ⟨_, _, happroach⟩

theorem pauseCount_succ {attempted : Nat} (h : attempted < s.count) :
    List.replicate (pauseCount s (attempted + 1)) s.delay =
      List.replicate (pauseCount s attempted) s.delay ++ pauses (pauseAfter s (attempted + 1)) := by
  have hne : attempted ≠ s.count := h.ne
  rw [pauses_pauseAfter]
  by_cases hd : s.delay.isPositive
  · by_cases hlast : attempted + 1 = s.count ∧ s.skipFinalDelay
    · have hattempted : s.count - 1 = attempted := by omega
      simp [pauseCount, hd, hlast, hne, hattempted]
    · simp [pauseCount, hd, hlast, hne, List.replicate_succ']
  · simp [pauseCount, hd]

theorem pauses_approach {replies : List Reply} (hr : replies.length ≤ s.count) :
    pauses (approach clipboard s start replies) =
      List.replicate (pauseCount s replies.length) s.delay := by
  rw [approach, pauses_append, pauses_opening, List.nil_append]
  induction replies using List.reverseRecOn with
  | nil => simp [rounds, pauses, pauseCount]
  | append_singleton replies reply ih =>
    rw [List.length_append, List.length_singleton] at hr ⊢
    have hround : pauses (rounds s start replies [reply]) =
        pauses (pauseAfter s (replies.length + 1)) := by
      rw [rounds, rounds, List.append_nil, round, pauses_append]
      show pauses (complaint s start replies reply) ++ pauses (pauseAfter s (replies.length + 1)) =
        pauses (pauseAfter s (replies.length + 1))
      rw [pauses_complaint, List.nil_append]
    rw [rounds_append, List.nil_append, pauses_append, ih (by omega), hround,
      pauseCount_succ s (by omega)]

theorem isClosing_round (past : List Reply) (reply : Reply) :
    ∀ call ∈ round s start past reply, call.isClosing = false := by
  unfold round trial complaint pauseAfter
  split <;> split <;> simp [Exchange.isClosing]

theorem isClosing_approach (replies : List Reply) :
    ∀ call ∈ approach clipboard s start replies, call.isClosing = false := by
  refine List.forall_mem_append.mpr ⟨by simp [opening, Exchange.isClosing], ?_⟩
  induction replies using List.reverseRecOn with
  | nil => simp [rounds]
  | append_singleton replies reply ih =>
    rw [rounds_append, List.nil_append, rounds, rounds, List.append_nil]
    exact List.forall_mem_append.mpr ⟨ih, isClosing_round s start replies reply⟩

end Calls

/-- The calls of an event that a run comes to, with the answers of the surroundings. -/
theorem Surroundings.exists_event {env : Surroundings} {s : Settings} {replies : List Reply}
    (h : approach env.clipboard s (env.now []) replies <+: env.history s) {n : Nat}
    (hn : n < replies.length) :
    ∃ asked report after,
      asked = approach env.clipboard s (env.now []) (replies.take n) ++
        [.tell (.copying (n + 1)) report] ∧
      env.history s = asked ++ [.now replies[n].moment] ++
        .copy (wording s (n + 1) replies[n].moment) replies[n].result :: after ∧
      replies[n].moment = env.now asked ∧
      replies[n].result = env.copy (asked ++ [.now replies[n].moment])
        (wording s (n + 1) replies[n].moment) := by
  obtain ⟨report, after, happroach⟩ := approach_eq_of_lt env.clipboard s (env.now []) hn
  obtain ⟨ending, hending⟩ := h
  let asked := approach env.clipboard s (env.now []) (replies.take n) ++
    [.tell (.copying (n + 1)) report]
  have hhistory : env.history s = asked ++ [.now replies[n].moment] ++
      .copy (wording s (n + 1) replies[n].moment) replies[n].result :: (after ++ ending) := by
    rw [← hending, happroach]
    simp only [asked, List.append_assoc, List.cons_append, List.nil_append]
  have hgives := env.gives_history s
  rw [hhistory, along_append, along_append] at hgives
  obtain ⟨⟨-, hmoment, -⟩, hresult, -⟩ := hgives
  exact ⟨asked, report, after ++ ending, rfl, hhistory, hmoment, hresult⟩

/-- Once a run has been told to stop, it begins no other event: the events that were begun by then
are all of them. -/
theorem Surroundings.Replied.begun_eq {env : Surroundings} {s : Settings} {start : Moment}
    {most : Nat} {replies : List Reply}
    (hr : env.Replied s start [] (opening env.clipboard s start) most replies) {past : History}
    (hpast : past <+: approach env.clipboard s start replies) (ht : env.told past = true) :
    (begun past).length = replies.length := by
  have hle : (begun past).length ≤ replies.length := by
    have hbegun := (hpast.filterMap Exchange.begins?).length_le
    rwa [← begun, ← begun, begun_approach, List.length_range'] at hbegun
  refine hle.antisymm (Nat.le_of_not_lt fun hlt => ?_)
  -- The check before the event after those that were begun has found nothing, so it comes before
  -- the end of `past`, and the next call after it begins one event more.
  generalize hn : (begun past).length = n at hlt
  have hcheck := hr.untold n hlt
  obtain ⟨report, after, happroach⟩ := approach_eq_of_lt env.clipboard s start hlt
  rcases List.prefix_or_prefix_of_prefix hpast
      (approach_take_isPrefix env.clipboard s start replies n) with h | ⟨rest, hrest⟩
  · exact Bool.noConfusion (hcheck.symm.trans (env.told_of_isPrefix h ht))
  · rw [happroach, ← hrest, List.prefix_append_right_inj] at hpast
    rcases List.prefix_cons_iff.mp hpast with rfl | ⟨rest, rfl, -⟩
    · rw [List.append_nil] at hrest
      exact Bool.noConfusion (hcheck.symm.trans (hrest ▸ ht))
    · rw [← hrest, begun_append, begun_approach, List.length_append, List.length_range',
        List.length_take_of_le hlt.le] at hn
      exact absurd hn (by simp [begun, Exchange.begins?])

/-- **When a run ends.** The last two calls are a look at the clock and the notice of the end, of
which there is no other; the run counts as cancelled if and only if it has been told to stop before
these two. If it has been told by the end of some calls before them, it attempts the events that
were begun by then, makes the pauses of so many events, and is cancelled. If it has not been told
before these two, it attempts all events. -/
theorem stops_after_current_event (env : Surroundings) (s : Settings) :
    ∃ calls finish,
      env.history s = calls ++ [.now finish,
        .tell (if (env.report s).cancelled then .interrupted else .finished) (env.report s)] ∧
      (∀ call ∈ calls, call.isClosing = false) ∧
      (env.report s).cancelled = env.told calls ∧
      (∀ past, past <+: calls → env.told past = true →
        let count := (begun past).length
        (writes (env.history s)).length = count ∧ (env.report s).attempted = count ∧
          pauses (env.history s) = List.replicate (pauseCount s count) s.delay ∧
          (env.report s).cancelled = true) ∧
      (env.told calls = false →
        (writes (env.history s)).length = s.count ∧ (env.report s).attempted = s.count) := by
  obtain ⟨replies, hr, hreport, hhistory, hwritten⟩ := env.course s
  let calls := approach env.clipboard s (env.now []) replies
  have hwrites : (writes (env.history s)).length = replies.length := by
    rw [hwritten, length_written]
  have hattempted : (env.report s).attempted = replies.length := by
    rw [hreport]
    exact length_written s replies
  have hcancelled : (env.report s).cancelled = env.told calls := by rw [hreport]; rfl
  refine ⟨calls, env.now calls, hhistory, isClosing_approach _ _ _ _, hcancelled, ?told, ?untold⟩
  case told =>
    intro past hpast ht
    have hbegun := hr.begun_eq hpast ht
    have hpauses : pauses (env.history s) =
        List.replicate (pauseCount s replies.length) s.delay := by
      rw [hhistory, pauses_append, pauses_closing, List.append_nil,
        pauses_approach _ s _ hr.length_le]
    refine ⟨hwrites.trans hbegun.symm, hattempted.trans hbegun.symm, ?_, ?_⟩
    · rw [hpauses, hbegun]
    · rw [hcancelled, env.told_of_isPrefix hpast ht]
  case untold =>
    intro hu
    have hall : replies.length = s.count := hr.length_eq hu
    exact ⟨hwrites.trans hall, hattempted.trans hall⟩

/-- A run of a hundred events that is told to stop during its third pause. -/
example :
    let env : Surroundings :=
      ⟨[], fun _ => default, fun _ _ => .ok (), fun history => (pauses history).length = 3⟩
    let report := env.report Settings.defaults
    report.attempted = 3 ∧ report.cancelled = true := by
  decide +kernel

end ClipCadence.Run
