import ClipCadence.Proofs.Run.Course

/-!
Runs with the same clock and the same clipboard. If the answers of the two depend only on the calls
made to them, then a run that is told to stop and one that is not go side by side up to the stop,
and so do a shorter run and a longer one: the writes of the one are the first writes of the other.

Main statement: `writes_are_prefixes`, for a stop at any call and for any two counts.
-/

namespace ClipCadence.Run

open Number Text

/-- Whether a call goes to the clock or to the clipboard. -/
def Exchange.isDevice : Exchange → Bool
  | .tell .. => false
  | _ => true

/-- The calls to the clock and the clipboard. -/
def deviceCalls (history : History) : History := history.filter Exchange.isDevice

/-- A clock and a clipboard whose answers depend on the calls made to them so far. -/
structure Devices where
  clipboard : RawText
  now : History → Moment
  copy : History → String → Except CopyError Unit

/-- Surroundings with some devices, and with someone who tells the run to stop. -/
def Devices.surroundings (devices : Devices) (stops : History → Bool) : Surroundings where
  clipboard := devices.clipboard
  now history := devices.now (deviceCalls history)
  copy history := devices.copy (deviceCalls history)
  stops := stops

def never : History → Bool := fun _ => false

theorem deviceCalls_append (first second : History) :
    deviceCalls (first ++ second) = deviceCalls first ++ deviceCalls second :=
  List.filter_append ..

/-- What the devices see of an event. -/
theorem deviceCalls_round (s : Settings) (start : Moment) (past : List Reply) (reply : Reply) :
    deviceCalls (round s start past reply) =
      .now reply.moment :: .copy (wording s (past.length + 1) reply.moment) reply.result ::
        pauseAfter s (past.length + 1) := by
  have hcomplaint : deviceCalls (complaint s start past reply) = [] := by
    unfold complaint
    split <;> rfl
  have hpause : deviceCalls (pauseAfter s (past.length + 1)) = pauseAfter s (past.length + 1) := by
    unfold pauseAfter
    split <;> rfl
  rw [round, deviceCalls_append, hpause]
  show .now reply.moment :: .copy (wording s (past.length + 1) reply.moment) reply.result ::
    (deviceCalls (complaint s start past reply) ++ pauseAfter s (past.length + 1)) = _
  rw [hcomplaint, List.nil_append]

/-! ### Side by side -/

section SideBySide

variable {devices : Devices} {stops stops' : History → Bool} {s s' : Settings} {start : Moment}

theorem wording_congr (hlabel : s.label = s'.label) (index : Nat) (moment : Moment) :
    wording s index moment = wording s' index moment := by
  rw [wording, wording, hlabel]

/-- The reply to an attempt, if the devices have seen the same calls before. -/
theorem reply_eq {past : List Reply} {reply reply' : Reply} {h h' : History}
    (hlabel : s.label = s'.label) (hsame : deviceCalls h = deviceCalls h')
    (ha : Along (devices.surroundings stops).Gives h (round s start past reply))
    (ha' : Along (devices.surroundings stops').Gives h' (round s' start past reply')) :
    reply = reply' := by
  obtain ⟨moment, result⟩ := reply
  obtain ⟨moment', result'⟩ := reply'
  obtain ⟨-, hnow, hcopy, -⟩ := ha
  obtain ⟨-, hnow', hcopy', -⟩ := ha'
  simp only [Surroundings.Gives, Devices.surroundings, deviceCalls_append, hsame] at hnow hcopy
  simp only [Surroundings.Gives, Devices.surroundings, deviceCalls_append] at hnow' hcopy'
  have hmoment : moment = moment' := hnow.trans hnow'.symm
  subst hmoment
  rw [wording_congr hlabel] at hcopy
  rw [hcopy, hcopy']
  rfl

/-- Of two runs whose devices have seen the same calls, the shorter one gets the first replies of
the longer one, if the two make the same pauses before the last event of the shorter one. -/
theorem replies_isPrefix {past next next' : List Reply} {h h' : History}
    (hlabel : s.label = s'.label)
    (hpause : ∀ index, index < past.length + next.length →
      pauseAfter s index = pauseAfter s' index)
    (hsame : next ≠ [] → deviceCalls h = deviceCalls h')
    (ha : Along (devices.surroundings stops).Gives h (rounds s start past next))
    (ha' : Along (devices.surroundings stops').Gives h' (rounds s' start past next'))
    (hle : next.length ≤ next'.length) : next <+: next' := by
  induction next generalizing past next' h h' with
  | nil => exact List.nil_prefix
  | cons reply next ih =>
    obtain _ | ⟨reply', next'⟩ := next'
    · exact absurd hle (Nat.not_succ_le_zero _)
    · rw [rounds, along_append] at ha ha'
      have hdevices := hsame (List.cons_ne_nil reply next)
      obtain rfl := reply_eq hlabel hdevices ha.1 ha'.1
      refine (List.prefix_cons_inj reply).mpr
        (ih ?pauses ?devices ha.2 ha'.2 (Nat.le_of_succ_le_succ hle))
      case pauses =>
        intro index hindex
        rw [List.length_append, List.length_singleton] at hindex
        exact hpause index (by rw [List.length_cons]; omega)
      case devices =>
        -- If no event is left the pauses may differ, but then no reply depends on them.
        intro hnext
        have hlast : past.length + 1 < past.length + (reply :: next).length :=
          Nat.add_lt_add_left (Nat.succ_lt_succ (List.length_pos_iff.mpr hnext)) _
        rw [deviceCalls_append, deviceCalls_append, deviceCalls_round, deviceCalls_round,
          hdevices, hpause _ hlast, wording_congr hlabel]

end SideBySide

theorem told_never (devices : Devices) (h : History) :
    (devices.surroundings never).told h = false := by
  simp [Surroundings.told, Devices.surroundings, never]

theorem take_written {s : Settings} {replies replies' : List Reply} (h : replies <+: replies') :
    (written s replies').take replies.length = written s replies := by
  obtain ⟨rest, rfl⟩ := h
  rw [written, List.zipIdx_append, List.map_append]
  exact List.take_left' (length_written s replies)

/-- **Prefixes of runs.** With the same clock and clipboard, a run that is told to stop makes the
first writes of the run that never is, at the same times and with the same results, as many as it
attempts, and its failures and its tally are those of these writes. Of two runs that are never told
to stop, the one with the smaller count makes the first writes of the other, also if only one of
them skips the pause after its last event. -/
theorem writes_are_prefixes (devices : Devices) (s : Settings) :
    (∀ stops : History → Bool,
      let whole := devices.surroundings never
      let cut := devices.surroundings stops
      let first := (writes (whole.history s)).take (cut.report s).attempted
      writes (cut.history s) = first ∧ (cut.report s).failures = failuresOf first ∧
        (cut.report s).tally = tallyOf first) ∧
      ∀ (count more : Nat) (skips skips' : Bool),
        let whole := devices.surroundings never
        let short := { s with count := count, skipFinalDelay := skips }
        let long := { s with count := count + more, skipFinalDelay := skips' }
        writes (whole.history short) = (writes (whole.history long)).take count := by
  refine ⟨fun stops => ?stopped, fun count more skips skips' => ?longer⟩
  case stopped =>
    intro whole cut first
    obtain ⟨replies, hr, hreport, -, hwritten⟩ := cut.course s
    obtain ⟨replies', hr', -, -, hwritten'⟩ := whole.course s
    have hall : replies'.length = s.count := hr'.length_eq (told_never devices _)
    have hprefix : replies <+: replies' :=
      replies_isPrefix rfl (fun _ _ => rfl) (fun _ => rfl) hr.answered hr'.answered
        (hall ▸ hr.length_le)
    have hattempted : (cut.report s).attempted = replies.length := by
      rw [hreport]
      exact length_written s replies
    have hfirst : first = written s replies := by
      rw [← take_written hprefix, ← hwritten', ← hattempted]
    rw [hfirst, hreport]
    exact ⟨hwritten, rfl, rfl⟩
  case longer =>
    intro whole short long
    obtain ⟨replies, hr, -, -, hwritten⟩ := whole.course short
    obtain ⟨replies', hr', -, -, hwritten'⟩ := whole.course long
    have hcount : replies.length = count := hr.length_eq (told_never devices _)
    have hcount' : replies'.length = count + more := hr'.length_eq (told_never devices _)
    have hlabel : short.label = long.label := rfl
    have hprefix : replies <+: replies' := by
      refine replies_isPrefix hlabel ?pauses ?devices hr.answered hr'.answered (by omega)
      case pauses =>
        intro index hindex
        have hn : index < count := by simpa [hcount] using hindex
        have hm : index ≠ count + more := by omega
        simp [pauseAfter, short, long, hn.ne, hm]
      case devices => exact fun _ => rfl
    rw [hwritten, hwritten', ← hcount]
    exact (take_written hprefix).symm

end ClipCadence.Run
