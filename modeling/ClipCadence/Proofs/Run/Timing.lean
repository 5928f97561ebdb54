import ClipCadence.Proofs.Calendar
import ClipCadence.Proofs.Clipboard.Deliveries
import ClipCadence.Proofs.Number.Nearest
import ClipCadence.Proofs.Run.Cancellation

/-!
The times of a run. A steady clock shows the time it has reached; a look at it takes some time and a
pause takes some. So the time that a look shows follows from the numbers of looks and of pauses
before it, and these are known for every call of a run: each event has one look before its write and
at most one pause after it, whatever the results of the writes are and wherever the run is told to
stop.

Main statement: `times_of_run`, for all runs that a steady clock lasts for.
-/

namespace ClipCadence.Run

open Number Text

/-! ### Steady clocks -/

/-- A clock that goes forward by some microseconds at each look at it and by some at each pause. -/
structure SteadyClock where
  start : Moment
  look : Nat
  pause : Nat

def Exchange.look? : Exchange → Option Moment
  | .now moment => some moment
  | _ => none

/-- The times that were looked at, in order. -/
def looks (history : History) : List Moment := history.filterMap Exchange.look?

theorem looks_append (first second : History) :
    looks (first ++ second) = looks first ++ looks second := List.filterMap_append

namespace SteadyClock

variable (clock : SteadyClock)

/-- The microseconds that a call takes. -/
def cost : Exchange → Nat
  | .now _ => clock.look
  | .sleep _ => clock.pause
  | .copy .. => 0
  | .tell .. => 0

/-- The time that the clock has reached after some calls, unless it is past the end of the
calendar. -/
def after (history : History) : Option Moment :=
  history.foldlM (fun time call => time.later? (clock.cost call)) clock.start

/-- Whether it is this clock that some surroundings look at. -/
def Drives (env : Surroundings) : Prop :=
  ∀ past time, clock.after past = some time → env.now past = time

/-- Whether the clock stays within the calendar during some calls. -/
def Lasts (history : History) : Prop := ∃ time, clock.after history = some time

/-- The microseconds that a pause of a run takes, if the settings want pauses. -/
def gap (s : Settings) : Nat := if s.delay.isPositive then clock.pause else 0

theorem cost_eq (call : Exchange) :
    clock.cost call =
      (looks [call]).length * clock.look + (pauses [call]).length * clock.pause := by
  cases call <;> simp [cost, looks, pauses, Exchange.look?, Exchange.pause?, List.filterMap_cons]

/-- The looks and the pauses tell how far the clock has gone. -/
theorem after_micros {history : History} {time : Moment} (h : clock.after history = some time) :
    time.micros = clock.start.micros + (looks history).length * clock.look +
      (pauses history).length * clock.pause := by
  induction history using List.reverseRecOn generalizing time with
  | nil =>
    cases h
    simp [looks, pauses]
  | append_singleton history call ih =>
    -- What is given is the time after the last call, so it is this call that is taken off.
    rw [after, List.foldlM_append] at h
    obtain ⟨before, hbefore, hlater⟩ := Option.bind_eq_some_iff.mp h
    simp only [List.foldlM_cons, List.foldlM_nil, bind_pure] at hlater
    rw [Moment.micros_of_later? hlater, ih hbefore, cost_eq, looks_append, pauses_append,
      List.length_append, List.length_append]
    ring

variable {clock}

theorem Lasts.of_isPrefix {earlier later : History} (h : clock.Lasts later)
    (hearlier : earlier <+: later) : clock.Lasts earlier := by
  obtain ⟨rest, rfl⟩ := hearlier
  obtain ⟨last, hlast⟩ := h
  rw [after, List.foldlM_append] at hlast
  obtain ⟨time, htime, -⟩ := Option.bind_eq_some_iff.mp hlast
  exact ⟨time, htime⟩

/-- What a look at the clock shows. -/
theorem Drives.now_micros {env : Surroundings} {past : History} (h : clock.Drives env)
    (hlasts : clock.Lasts past) :
    (env.now past).micros = clock.start.micros + (looks past).length * clock.look +
      (pauses past).length * clock.pause := by
  obtain ⟨time, htime⟩ := hlasts
  rw [h past time htime]
  exact clock.after_micros htime

end SteadyClock

/-! ### Looks and pauses of a run -/

section Count

variable (s : Settings) (start : Moment)

theorem looks_round (past : List Reply) (reply : Reply) :
    looks (round s start past reply) = [reply.moment] := by
  have hcomplaint : looks (complaint s start past reply) = [] := by
    unfold complaint
    split <;> rfl
  have hpause : looks (pauseAfter s (past.length + 1)) = [] := by
    unfold pauseAfter
    split <;> rfl
  rw [round, looks_append, hpause, List.append_nil]
  exact congrArg (reply.moment :: ·) hcomplaint

theorem length_looks_approach (clipboard : RawText) (replies : List Reply) :
    (looks (approach clipboard s start replies)).length = replies.length + 1 := by
  induction replies using List.reverseRecOn with
  | nil => rfl
  | append_singleton replies reply ih =>
    rw [approach_append, looks_append, List.length_append, ih, rounds, rounds, List.append_nil,
      looks_round, List.length_append, List.length_singleton, List.length_singleton]

end Count

section Run

variable {env : Surroundings} {clock : SteadyClock} {s : Settings}

/-- Up to the last event there is a pause for each event, or none. -/
theorem pauseCount_mul (clock : SteadyClock) {attempted : Nat} (h : attempted < s.count) :
    pauseCount s attempted * clock.pause = attempted * clock.gap s := by
  have hne : attempted ≠ s.count := h.ne
  unfold pauseCount SteadyClock.gap
  cases s.delay.isPositive <;> simp [hne]

variable {replies : List Reply}

/-- The time at the check after some events. -/
theorem now_approach (hdrives : clock.Drives env) (hle : replies.length ≤ s.count)
    (hlasts : clock.Lasts (approach env.clipboard s (env.now []) replies)) :
    (env.now (approach env.clipboard s (env.now []) replies)).micros =
      clock.start.micros + (replies.length + 1) * clock.look +
        pauseCount s replies.length * clock.pause := by
  rw [hdrives.now_micros hlasts, length_looks_approach, pauses_approach _ s _ hle,
    List.length_replicate]

/-- The time of an event. -/
theorem moment_micros (hdrives : clock.Drives env) (hlasts : clock.Lasts (env.history s))
    (hhistory : approach env.clipboard s (env.now []) replies <+: env.history s)
    (hle : replies.length ≤ s.count) {n : Nat} (hn : n < replies.length) :
    replies[n].moment.micros = clock.start.micros + (n + 1) * clock.look + n * clock.gap s := by
  obtain ⟨asked, report, after, hasked, hsplit, hmoment, -⟩ := Surroundings.exists_event hhistory hn
  have hlength : (replies.take n).length = n := List.length_take_of_le hn.le
  -- Before the look of the event there are those of the events before it and the one at the start.
  have hlooks : (looks asked).length = n + 1 := by
    rw [hasked, looks_append, List.length_append, length_looks_approach, hlength]
    rfl
  have hpauses : (pauses asked).length = pauseCount s n := by
    rw [hasked, pauses_append, List.length_append,
      pauses_approach _ s _ (hlength.trans_le (hn.le.trans hle)), List.length_replicate, hlength]
    rfl
  have hearlier : asked <+: env.history s := by
    rw [hsplit, List.append_assoc]
    exact List.prefix_append asked _
  rw [hmoment, hdrives.now_micros (hlasts.of_isPrefix hearlier), hlooks, hpauses,
    pauseCount_mul clock (hn.trans_le hle)]

end Run

/-! ### Payloads -/

/-- Whether a text names the label and the index of an event and the time of day of a moment, of
which the part below a second is left out. -/
def Stamped (label : String) (index : Nat) (moment : Moment) (text : String) : Prop :=
  ∃ year month day hour minute second micro : Nat,
    Moment.ofParts year month day hour minute second micro = .ok moment ∧
      text = label ++ " " ++ toString index ++ " - " ++ String.ofList
        (Numeral.padded 2 hour ++ ':' :: Numeral.padded 2 minute ++ ':' :: Numeral.padded 2 second)

theorem stamped_wording (s : Settings) (index : Nat) (moment : Moment) :
    Stamped s.label index moment (wording s index moment) := by
  obtain ⟨year, month, day, -, hparts⟩ := moment.ofParts_parts
  exact ⟨year, month, day, _, _, _, _, hparts, rfl⟩

/-! ### The whole run -/

section Whole

variable {env : Surroundings} {clock : SteadyClock} {s : Settings}

/-- The time of an event is seen in its write. -/
theorem write_timed (hdrives : clock.Drives env) (hlasts : clock.Lasts (env.history s)) {n : Nat}
    {write : Write} (hwrite : (writes (env.history s))[n]? = some write) :
    ∃ moment, write.moment = some moment ∧
      moment.micros = clock.start.micros + (n + 1) * clock.look + n * clock.gap s ∧
      Stamped s.label (n + 1) moment write.text := by
  obtain ⟨replies, hr, -, hhistory, hwritten⟩ := env.course s
  rw [hwritten, getElem?_written] at hwrite
  obtain ⟨reply, hreply, rfl⟩ := Option.map_eq_some_iff.mp hwrite
  obtain ⟨hn, rfl⟩ := List.getElem?_eq_some_iff.mp hreply
  exact ⟨replies[n].moment, rfl,
    moment_micros hdrives hlasts ⟨_, hhistory.symm⟩ hr.length_le hn,
    stamped_wording s (n + 1) replies[n].moment⟩

/-- An event comes at least a pause after every earlier one. -/
theorem writes_spaced (hdrives : clock.Drives env) (hlasts : clock.Lasts (env.history s)) :
    (writes (env.history s)).Pairwise fun earlier later =>
      ∃ moment moment', earlier.moment = some moment ∧ later.moment = some moment' ∧
        moment.micros + clock.gap s ≤ moment'.micros := by
  refine List.pairwise_iff_getElem.mpr fun n later hn hlater hlt => ?_
  obtain ⟨moment, hmoment, hmicros, -⟩ :=
    write_timed hdrives hlasts (List.getElem?_eq_getElem hn)
  obtain ⟨moment', hmoment', hmicros', -⟩ :=
    write_timed hdrives hlasts (List.getElem?_eq_getElem hlater)
  have hlooks : (n + 1) * clock.look ≤ (later + 1) * clock.look :=
    Nat.mul_le_mul_right _ (Nat.succ_le_succ hlt.le)
  have hgaps : n * clock.gap s + clock.gap s ≤ later * clock.gap s := by
    rw [← Nat.succ_mul]
    exact Nat.mul_le_mul_right _ hlt
  exact ⟨moment, moment', hmoment, hmoment', by omega⟩

/-- **The times of a run** with a steady clock that lasts for it, whatever the results of the writes
are and wherever the run is told to stop. It starts at the time from which the clock starts. From
one event to the next the clock goes forward by a look and, if the settings want pauses, by a pause;
so the events come in order, each at least a pause after the earlier ones, and their payloads show
these times. The run finishes after one look more than it has events and after its pauses, and its
duration is the double nearest to the seconds that it took. -/
theorem times_of_run (hdrives : clock.Drives env) (hlasts : clock.Lasts (env.history s)) :
    let report := env.report s
    let attempted := report.attempted
    let spent := (attempted + 1) * clock.look + pauseCount s attempted * clock.pause
    (report.started = some clock.start ∧
      ∃ finish, report.finished = some finish ∧ finish.micros = clock.start.micros + spent) ∧
    (report.micros = spent ∧
      ∃ units, report.duration = .finite false units ∧ Binary64.IsNearest units spent 1000000) ∧
    (writes (env.history s)).length = attempted ∧
    (∀ n write, (writes (env.history s))[n]? = some write →
      ∃ moment, write.moment = some moment ∧
        moment.micros = clock.start.micros + (n + 1) * clock.look + n * clock.gap s ∧
        Stamped s.label (n + 1) moment write.text) ∧
    (writes (env.history s)).Pairwise fun earlier later =>
      ∃ moment moment', earlier.moment = some moment ∧ later.moment = some moment' ∧
        moment.micros + clock.gap s ≤ moment'.micros := by
  obtain ⟨replies, hr, hreport, hhistory, hwritten⟩ := env.course s
  let calls := approach env.clipboard s (env.now []) replies
  have hearlier : calls <+: env.history s := ⟨_, hhistory.symm⟩
  have hattempted : (env.report s).attempted = replies.length := by
    rw [hreport]
    exact length_written s replies
  intro report attempted spent
  have hfinish : (env.now calls).micros = clock.start.micros + spent := by
    simp only [spent, attempted, report, hattempted]
    rw [now_approach hdrives hr.length_le (hlasts.of_isPrefix hearlier), Nat.add_assoc]
  have hstarted : report.started = some clock.start := by
    rw [← hdrives [] clock.start rfl]
    simp only [report, hreport]
    rfl
  have hfinished : report.finished = some (env.now calls) := by
    simp only [report, hreport]
    rfl
  have hmicros : report.micros = spent := by
    rw [Report.micros, hstarted, hfinished]
    simp only [Moment.elapsed, hfinish]
    omega
  refine ⟨⟨hstarted, env.now calls, hfinished, hfinish⟩, ⟨hmicros, ?duration⟩, ?length,
    fun n write hwrite => write_timed hdrives hlasts hwrite, writes_spaced hdrives hlasts⟩
  case duration =>
    -- The run ends within the calendar, so its length is far from the largest doubles.
    have hinCalendar := (env.now calls).inCalendar
    rw [Report.duration, hmicros]
    refine Binary64.ofMicros_nearest ?_
    simp only [Calendar.dayCount, microsPerDay, microsPerSecond] at hinCalendar
    omega
  case length =>
    rw [hwritten, length_written]
    exact hattempted.symm

end Whole

/-- Two events around the midnight before a 29th of February. The clock starts half a second before
it; a look takes a quarter of a second and a pause takes two. -/
theorem times_at_midnight :
    let start : Moment := ⟨63844761599500000, by decide⟩
    let clock : SteadyClock := ⟨start, 250000, 2000000⟩
    let env : Surroundings :=
      ⟨[], fun past => (clock.after past).getD default, fun _ _ => .ok (), fun _ => false⟩
    let s : Settings := { Settings.defaults with count := 2 }
    Moment.ofParts 2024 2 28 23 59 59 500000 = .ok start ∧ clock.Drives env ∧
      clock.Lasts (env.history s) ∧ (env.report s).micros = 4750000 ∧
      ∃ write moment, (writes (env.history s))[1]? = some write ∧ write.moment = some moment ∧
        Moment.ofParts 2024 2 29 0 0 2 0 = .ok moment := by
  intro start clock env s
  have hdrives : clock.Drives env := by
    intro past time htime
    simp only [env, htime, Option.getD_some]
  have hlasts : clock.Lasts (env.history s) :=
    Option.isSome_iff_exists.mp (by decide +kernel)
  have hattempted : (env.report s).attempted = 2 := by decide +kernel
  have hgap : clock.gap s = 2000000 := by decide +kernel
  have hpauses : pauseCount s 2 = 2 := by decide +kernel
  obtain ⟨-, ⟨hmicros, -⟩, hlength, hevents, -⟩ := times_of_run hdrives hlasts
  have hspent : (2 + 1) * clock.look + 2 * clock.pause = 4750000 := by decide +kernel
  rw [hattempted, hpauses, hspent] at hmicros
  rw [hattempted] at hlength
  have hsecond : 1 < (writes (env.history s)).length := hlength.symm ▸ Nat.one_lt_two
  obtain ⟨moment, hmoment, htime, -⟩ := hevents 1 _ (List.getElem?_eq_getElem hsecond)
  have hreached : clock.start.micros + (1 + 1) * clock.look + 1 * 2000000 = 63844761602000000 := by
    decide +kernel
  rw [hgap, hreached] at htime
  refine ⟨by decide +kernel, hdrives, hlasts, hmicros, _, moment,
    List.getElem?_eq_getElem hsecond, hmoment, ?_⟩
  have hparts : Moment.ofParts 2024 2 29 0 0 2 0 = .ok ⟨63844761602000000, by decide⟩ := by
    decide +kernel
  obtain ⟨micros, inCalendar⟩ := moment
  obtain rfl : micros = 63844761602000000 := htime
  exact hparts

end ClipCadence.Run
