import ClipCadence.Proofs.Run.Cancellation
import ClipCadence.Proofs.Run.Refusal
import ClipCadence.Proofs.Settings.Accepted
import ClipCadence.Run.Rehearsal

/-!
Pauses that a clock cannot make. Settings may ask for a pause of any length, also an endless one,
and are accepted with it, but no clock can make all of them. All pauses of a run have the same
length, so the clock refuses the first one or none. If it refuses the first, the run is over right
after its first event: there is no report, and nobody is told how the run ended.

Main statement: `ends_unless_pause_refused`, an accepted run ends in a report exactly if its pause
can be made or is never reached. `endless_pause_ends_run` is a run that it ends.
-/

namespace ClipCadence

open Number Text

namespace Run

/-- The refusals of a clock that cannot make pauses of some lengths. -/
def pauseRefusal {ε : Type} (limit : Binary64 → Option ε) : Refusal ε
  | _, .sleep seconds => limit seconds
  | _, _ => none

/-- Whether a run comes to a pause: there is one after the first event, and the run has not been
told to stop before that event. -/
def ReachesPause (env : Surroundings) (s : Settings) : Prop :=
  pausesAfter s 1 = true ∧ env.told (opening env.clipboard s (env.now [])) = false

/-! ### Where the pauses are -/

section Granted

variable {ε : Type} {limit : Binary64 → Option ε}

theorem granted_of_pauses {past calls : History}
    (h : ∀ seconds ∈ pauses calls, limit seconds = none) :
    Granted (pauseRefusal limit) past calls := by
  refine Along.of_forall fun before call after hcalls => ?_
  cases call with
  | sleep seconds =>
    have hmem : seconds ∈ pauses calls := by
      rw [hcalls, pauses_append]
      exact List.mem_append_right _ List.mem_cons_self
    exact h seconds hmem
  | now | copy | tell => rfl

theorem pauses_trial (s : Settings) (start : Moment) (past : List Reply) (reply : Reply) :
    pauses (trial s start past reply) = [] := pauses_complaint s start past reply

end Granted

section Pauses

variable {env : Surroundings} {s : Settings} {replies : List Reply}

theorem pauses_history
    (hr : env.Replied s (env.now []) [] (opening env.clipboard s (env.now [])) s.count replies)
    (hhistory : env.history s = approach env.clipboard s (env.now []) replies ++
      closing (env.now (approach env.clipboard s (env.now []) replies)) (env.report s)) :
    pauses (env.history s) = List.replicate (pauseCount s replies.length) s.delay := by
  rw [hhistory, pauses_append, pauses_closing, List.append_nil,
    pauses_approach _ s _ hr.length_le]

/-- A run that comes to no pause makes none. -/
theorem pauseCount_eq_zero
    (hr : env.Replied s (env.now []) [] (opening env.clipboard s (env.now [])) s.count replies)
    (h : ¬ReachesPause env s) : pauseCount s replies.length = 0 := by
  by_cases hpause : pausesAfter s 1 = true
  · -- The run has been told to stop before its first event, so there is none.
    have htold : env.told (opening env.clipboard s (env.now [])) = true :=
      Bool.of_not_eq_false fun htold => h ⟨hpause, htold⟩
    obtain rfl : replies = [] := by
      by_contra hne
      have huntold := hr.untold 0 (List.length_pos_iff.mpr hne)
      rw [List.take_zero, rounds, List.append_nil] at huntold
      exact Bool.noConfusion (huntold.symm.trans htold)
    simp [pauseCount]
  · have hle := hr.length_le
    simp only [pausesAfter, Bool.and_eq_true, Bool.not_eq_true', Bool.and_eq_false_iff,
      decide_eq_false_iff_not, not_and, not_or, not_not, Bool.not_eq_false] at hpause
    by_cases hdelay : s.delay.isPositive = true
    · -- The only pause would be the one after the last event, which the settings skip.
      obtain ⟨hone, hskip⟩ := hpause hdelay
      rw [← hone] at hle
      rcases Nat.le_one_iff_eq_zero_or_eq_one.mp hle with hzero | hlast
      · simp [pauseCount, hzero]
      · simp [pauseCount, hlast, ← hone, hskip]
    · simp [pauseCount, hdelay]

end Pauses

/-! ### The first pause -/

section First

variable {ε : Type} {limit : Binary64 → Option ε} {env : Surroundings} {s : Settings}

/-- A run that comes to a pause makes the calls of its first event before it, and no others. -/
theorem exists_before_pause (hpos : 1 ≤ s.count) (h : ReachesPause env s) :
    ∃ reply rest, env.history s = opening env.clipboard s (env.now []) ++
      trial s (env.now []) [] reply ++ .sleep s.delay :: rest := by
  obtain ⟨replies, hr, -, hhistory, -⟩ := env.course s
  obtain ⟨hpause, htold⟩ := h
  obtain ⟨reply, next, rfl⟩ : ∃ reply next, replies = reply :: next := by
    refine List.exists_cons_of_ne_nil ?_
    rintro rfl
    have hnow := hr.told hpos
    rw [rounds, List.append_nil] at hnow
    exact Bool.noConfusion (htold.symm.trans hnow)
  have hsleep : pauseAfter s 1 = [.sleep s.delay] := by
    rw [Surroundings.pauseAfter_eq, if_pos hpause]
  rw [hhistory, approach, rounds, round, List.length_nil, Nat.zero_add, hsleep]
  exact ⟨reply, _, by simp only [List.append_assoc, List.cons_append, List.nil_append]; rfl⟩

/-- The calls up to the first pause, if the clock refuses it. -/
theorem performUnder_of_refused (hpos : 1 ≤ s.count) (h : ReachesPause env s) {error : ε}
    (hlimit : limit s.delay = some error) :
    ∃ reply, env.performUnder (pauseRefusal limit) s =
      (.error error, opening env.clipboard s (env.now []) ++ trial s (env.now []) [] reply) := by
  obtain ⟨reply, rest, hhistory⟩ := exists_before_pause hpos h
  let calls := opening env.clipboard s (env.now []) ++ trial s (env.now []) [] reply
  have hquiet : pauses calls = [] := by
    rw [pauses_append, pauses_opening, pauses_trial, List.nil_append]
  have hrefused : RefusedAt (pauseRefusal limit) [] (env.history s) calls error := by
    refine ⟨granted_of_pauses ?_, .sleep s.delay, rest, hhistory, hlimit⟩
    rw [hquiet]
    exact fun _ hmem => absurd hmem List.not_mem_nil
  refine ⟨reply, ?_⟩
  rw [Surroundings.performUnder_eq, hrefused.cut_eq]
  rfl

end First

/-- **When an accepted run ends in a report.** If the clock can make pauses of the length that the
settings ask for, or the run comes to no pause, then the run ends in its report, and the last of its
calls tells how it ended, which no other call does. If the run comes to a pause that the clock
refuses, then the run ends with the error of the clock: it has made one write, for its first event,
and has told nobody how it ended. -/
theorem ends_unless_pause_refused {ε : Type} (env : Surroundings) (limit : Binary64 → Option ε)
    (room : Json.Room) (user : Files.Path) (tree : Files.Tree) (steps : List Settings.Step)
    (step : Settings.Step) (s : Settings)
    (h : (Settings.Scene.play room user tree steps).outcome user step = some (.ok s)) :
    let ending := env.performUnder (pauseRefusal limit) s
    (limit s.delay = none ∨ ¬ReachesPause env s →
        ∃ calls finish report,
          ending = (.ok report, calls ++ [.now finish, .tell (outcome report) report]) ∧
            ∀ call ∈ calls, call.isClosing = false) ∧
      ∀ error, limit s.delay = some error → ReachesPause env s →
        ending.1 = .error error ∧ begun ending.2 = [1] ∧ (writes ending.2).length = 1 ∧
          ∀ call ∈ ending.2, call.isClosing = false := by
  intro ending
  have hpos : 1 ≤ s.count := (Settings.Scene.outcome_usable h).count_pos
  refine ⟨fun hmade => ?made, fun error hlimit hreaches => ?refused⟩
  case made =>
    obtain ⟨replies, hr, -, hhistory, -⟩ := env.course s
    have hgranted : Granted (pauseRefusal limit) [] (env.history s) := by
      refine granted_of_pauses fun seconds hseconds => ?_
      rw [pauses_history hr hhistory] at hseconds
      rcases hmade with hlimit | hreaches
      · rw [List.eq_of_mem_replicate hseconds, hlimit]
      · rw [pauseCount_eq_zero hr hreaches] at hseconds
        exact absurd hseconds List.not_mem_nil
    let calls := approach env.clipboard s (env.now []) replies
    refine ⟨calls, env.now calls, env.report s, ?_, isClosing_approach _ _ _ _⟩
    show env.performUnder (pauseRefusal limit) s = _
    rw [Surroundings.performUnder_eq, cut_of_granted hgranted, List.nil_append]
    exact congrArg (Prod.mk _) hhistory
  case refused =>
    obtain ⟨reply, hending⟩ := performUnder_of_refused hpos hreaches hlimit
    -- Up to the pause these are the calls of a run of one event.
    have hcalls : approach env.clipboard s (env.now []) [reply] =
        ending.2 ++ pauseAfter s 1 := by
      simp [ending, hending, approach, rounds, round]
    have hbegun : begun (ending.2 ++ pauseAfter s 1) = [1] := by
      rw [← hcalls, begun_approach]
      rfl
    have hwrites : writes (ending.2 ++ pauseAfter s 1) = written s [reply] := by
      rw [← hcalls, writes_approach]
    rw [begun_append, begun_pauseAfter, List.append_nil] at hbegun
    rw [writes, writesFrom_append, writesFrom_pauseAfter, List.append_nil, ← writes] at hwrites
    refine ⟨congrArg Prod.fst hending, hbegun, by rw [hwrites, length_written]; rfl, ?_⟩
    intro call hcall
    refine isClosing_approach env.clipboard s (env.now []) [reply] call ?_
    rw [hcalls]
    exact List.mem_append_left _ hcall

/-! ### An endless pause -/

/-- The pauses that a clock cannot make at a time. -/
def clockLimit (time : Moment) (seconds : Binary64) : Option Overflow :=
  match World.pause seconds >>= World.later time with
  | .error overflow => some overflow
  | .ok _ => none

def endlessDocument : List Char := "\x7b\"count\": 1, \"delay\": Infinity\x7d".toList

def endlessSettings : Settings := { Settings.defaults with count := 1, delay := .infinite false }

def endlessTree : Files.Tree := ⟨[], [(["c.json"], .file (Utf8.encode endlessDocument))]⟩

/-- Settings with an endless pause are accepted. -/
theorem endless_accepted :
    let user := Files.Path.ofString "user.json"
    let step : Settings.Step := .load (.file (.ofString "c.json"))
    (Settings.Scene.play .usual user endlessTree []).outcome user step =
      some (.ok endlessSettings) := by
  intro user step
  have houtcome : ((Settings.Scene.play .usual user endlessTree []).outcome user step).bind
      Except.toOption = some endlessSettings := by
    decide +kernel
  obtain ⟨result, hresult, hok⟩ := Option.bind_eq_some_iff.mp houtcome
  rw [hresult, Fallible.toOption_eq_some_iff.mp hok]

/-- The clock ends the run at that pause; a run that is told to stop before does not come to it. -/
theorem endless_pause_refused :
    let user := Files.Path.ofString "user.json"
    let step : Settings.Step := .load (.file (.ofString "c.json"))
    let env : Surroundings := ⟨[], fun _ => default, fun _ _ => .ok (), fun _ => false⟩
    let stopped : Surroundings := ⟨[], fun _ => default, fun _ _ => .ok (), fun _ => true⟩
    let refusal := pauseRefusal (clockLimit default)
    (Settings.Scene.play .usual user endlessTree []).outcome user step =
      some (.ok endlessSettings) ∧
      clockLimit default endlessSettings.delay = some .infinite ∧
      ReachesPause env endlessSettings ∧
      (env.performUnder refusal endlessSettings).1 = .error .infinite ∧
      ¬ReachesPause stopped endlessSettings ∧
      (∃ report, (stopped.performUnder refusal endlessSettings).1 = .ok report) := by
  intro user step env stopped refusal
  have haccepted := endless_accepted
  have hlimit : clockLimit default endlessSettings.delay = some .infinite := by decide
  have hreaches : ReachesPause env endlessSettings := ⟨by decide, by decide⟩
  have hstopped : ¬ReachesPause stopped endlessSettings := fun h => absurd h.2 (by decide)
  have hrefused := (ends_unless_pause_refused env (clockLimit default) .usual user endlessTree []
    step endlessSettings haccepted).2 .infinite hlimit hreaches
  have hmade := (ends_unless_pause_refused stopped (clockLimit default) .usual user endlessTree []
    step endlessSettings haccepted).1 (.inr hstopped)
  obtain ⟨calls, finish, report, hending, -⟩ := hmade
  exact ⟨haccepted, hlimit, hreaches, hrefused.1, hstopped, report, congrArg Prod.fst hending⟩

/-- Not every accepted run ends in a report: with an endless pause a rehearsal crashes at its clock
after the first write, before anyone is told that it is over. -/
theorem endless_pause_ends_run :
    let user := Files.Path.ofString "user.json"
    let step : Settings.Step := .load (.file (.ofString "c.json"))
    let w : World := ⟨default, 0, .memory (.empty []), [], [], none, false, [], [], []⟩
    let ending := w.rehearse .recorded endlessSettings
    (Settings.Scene.play .usual user endlessTree []).outcome user step =
      some (.ok endlessSettings) ∧
      (¬∃ report, ending.1 = .ok report) ∧ ending.1 = .error (.clock .infinite) ∧
      ending.2.calls.map Call.kind = [.now, .started, .copying, .now, .copy] := by
  intro user step w ending
  have hcrash : ending.1 = .error (.clock .infinite) := by decide +kernel
  refine ⟨endless_accepted, ?_, hcrash, by decide +kernel⟩
  rintro ⟨report, hreport⟩
  cases hreport.symm.trans hcrash

end Run

end ClipCadence
