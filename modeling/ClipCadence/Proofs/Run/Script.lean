import ClipCadence.Proofs.Run.Surroundings

/-!
The script of a run: its calls and its reports, written down from the replies that the surroundings
give to its attempts and without the loop of the run. A reply is the time that is shown and the
result of the write. `account` is the report once some writes have been made, `approach` the calls
up to the check whether to stop that comes after some events, and `closing` the calls after the
last of these checks.
-/

namespace ClipCadence.Run

open Number Text

/-! ### Accounts of writes -/

/-- The failure that a write with the given index leaves in a report. -/
def failureAt (write : Write) (index : Nat) : Option Failure :=
  match write.result with
  | .ok () => none
  | .error error => some ⟨index, write.text, error.message⟩

def failuresOf (ws : List Write) : List Failure :=
  (ws.zipIdx 1).filterMap fun (write, index) => failureAt write index

def tallyWrite (tally : Tally) (write : Write) : Tally :=
  match write.result with
  | .ok () => tally.add (ContentType.classify write.text)
  | .error _ => tally

def tallyOf (ws : List Write) : Tally := ws.foldl tallyWrite []

/-- The report of a run that has made some writes and goes on. -/
def account (s : Settings) (start : Moment) (ws : List Write) : Report where
  requested := s.count
  attempted := ws.length
  succeeded := ws.countP Write.succeeds
  failures := failuresOf ws
  tally := tallyOf ws
  cancelled := false
  started := some start
  finished := none

theorem failuresOf_append_singleton (ws : List Write) (write : Write) :
    failuresOf (ws ++ [write]) = failuresOf ws ++ (failureAt write (ws.length + 1)).toList := by
  rw [failuresOf, List.zipIdx_append, List.filterMap_append, List.zipIdx_singleton,
    Nat.add_comm 1]
  cases h : failureAt write (ws.length + 1) <;> simp [failuresOf, h]

theorem tallyOf_append_singleton (ws : List Write) (write : Write) :
    tallyOf (ws ++ [write]) = tallyWrite (tallyOf ws) write := by
  simp [tallyOf]

theorem account_append_ok (s : Settings) (start : Moment) (ws : List Write)
    (moment : Option Moment) (text : String) :
    account s start (ws ++ [⟨moment, text, .ok ()⟩]) =
      (account s start ws).recordSuccess (ContentType.classify text) := by
  simp [account, Report.recordSuccess, failuresOf_append_singleton, tallyOf_append_singleton,
    failureAt, tallyWrite, Write.succeeds, Except.isOk, Except.toBool]

theorem account_append_error (s : Settings) (start : Moment) (ws : List Write)
    (moment : Option Moment) (text : String) (error : CopyError) :
    account s start (ws ++ [⟨moment, text, .error error⟩]) =
      (account s start ws).recordFailure ⟨(ws.length + 1 : Nat), text, error.message⟩ := by
  simp [account, Report.recordFailure, failuresOf_append_singleton, tallyOf_append_singleton,
    failureAt, tallyWrite, Write.succeeds, Except.isOk, Except.toBool]

/-! ### The calls of a run -/

/-- What the surroundings reply to one attempt. -/
structure Reply where
  moment : Moment
  result : Except CopyError Unit
  deriving DecidableEq

/-- The text of an event: the label, the index and the time of day. -/
def wording (s : Settings) (index : Nat) (moment : Moment) : String :=
  s.label ++ " " ++ toString index ++ " - " ++ String.ofList moment.clock

def Reply.write (s : Settings) (reply : Reply) (index : Nat) : Write :=
  ⟨some reply.moment, wording s index reply.moment, reply.result⟩

/-- The writes of the first events, given the replies to them. -/
def written (s : Settings) (replies : List Reply) : List Write :=
  (replies.zipIdx 1).map fun (reply, index) => reply.write s index

def opening (clipboard : RawText) (s : Settings) (start : Moment) : History :=
  [.now start, .tell (.started s.count s.delay clipboard) (account s start [])]

/-- The notice of a failure, if the reply to the attempt after some others is one. -/
def complaint (s : Settings) (start : Moment) (past : List Reply) (reply : Reply) : History :=
  let index := past.length + 1
  match reply.result with
  | .ok () => []
  | .error error =>
    [.tell (.failed ⟨index, wording s index reply.moment, reply.moment⟩ error)
      (account s start (written s (past ++ [reply])))]

def pauseAfter (s : Settings) (index : Nat) : History :=
  if s.delay.isPositive ∧ ¬(index = s.count ∧ s.skipFinalDelay) then [.sleep s.delay] else []

/-- The calls of the attempt after some others. -/
def trial (s : Settings) (start : Moment) (past : List Reply) (reply : Reply) : History :=
  let index := past.length + 1
  .tell (.copying index) (account s start (written s past)) :: .now reply.moment ::
    .copy (wording s index reply.moment) reply.result :: complaint s start past reply

/-- The calls of the event after some others. -/
def round (s : Settings) (start : Moment) (past : List Reply) (reply : Reply) : History :=
  trial s start past reply ++ pauseAfter s (past.length + 1)

/-- The calls of the events after some others. -/
def rounds (s : Settings) (start : Moment) : (past next : List Reply) → History
  | _, [] => []
  | past, reply :: next => round s start past reply ++ rounds s start (past ++ [reply]) next

/-- All calls up to the check after some events. -/
def approach (clipboard : RawText) (s : Settings) (start : Moment) (replies : List Reply) :
    History :=
  opening clipboard s start ++ rounds s start [] replies

/-- The report of a run that is over. -/
def conclusion (s : Settings) (start : Moment) (replies : List Reply) (cancelled : Bool)
    (finish : Moment) : Report :=
  { account s start (written s replies) with cancelled := cancelled, finished := some finish }

def closing (finish : Moment) (report : Report) : History :=
  [.now finish, .tell (if report.cancelled then .interrupted else .finished) report]

theorem ofList_write (n : Nat) : String.ofList (Numeral.write n) = n.repr := by
  have nonnegative : ¬(n : Int) < 0 := by omega
  simp [Numeral.write, Nat.repr, nonnegative]

/-- Events are made with this wording. -/
theorem make_eq (s : Settings) (index : Nat) (moment : Moment) :
    Event.make s.label index moment = ⟨index, wording s index moment, moment⟩ := by
  have dash (text : String) : " " ++ ("-" ++ (" " ++ text)) = " - " ++ text := by
    rw [← String.append_assoc, ← String.append_assoc]
    rfl
  simp [Event.make, Payload.text, Payload.write, wording, ofList_write, dash, String.append_assoc]

theorem written_append_singleton (s : Settings) (past : List Reply) (reply : Reply) :
    written s (past ++ [reply]) = written s past ++ [reply.write s (past.length + 1)] := by
  simp [written, List.zipIdx_append, Nat.add_comm 1]

@[simp] theorem length_written (s : Settings) (replies : List Reply) :
    (written s replies).length = replies.length := by
  simp [written]

/-! ### Reading the calls -/

section Reading

variable (s : Settings) (start : Moment)

@[simp] theorem begun_complaint (past : List Reply) (reply : Reply) :
    begun (complaint s start past reply) = [] := by
  unfold complaint
  split <;> rfl

@[simp] theorem begun_pauseAfter (index : Nat) : begun (pauseAfter s index) = [] := by
  unfold pauseAfter
  split <;> rfl

@[simp] theorem pauses_complaint (past : List Reply) (reply : Reply) :
    pauses (complaint s start past reply) = [] := by
  unfold complaint
  split <;> rfl

theorem pauses_pauseAfter (index : Nat) :
    pauses (pauseAfter s index) =
      if s.delay.isPositive ∧ ¬(index = s.count ∧ s.skipFinalDelay) then [s.delay] else [] := by
  unfold pauseAfter
  split <;> rfl

@[simp] theorem pauses_opening (clipboard : RawText) :
    pauses (opening clipboard s start) = [] := rfl

@[simp] theorem pauses_closing (finish : Moment) (report : Report) :
    pauses (closing finish report) = [] := rfl

@[simp] theorem writesFrom_complaint (last : Option Moment) (past : List Reply) (reply : Reply) :
    writesFrom last (complaint s start past reply) = [] := by
  unfold complaint
  split <;> rfl

@[simp] theorem writesFrom_pauseAfter (last : Option Moment) (index : Nat) :
    writesFrom last (pauseAfter s index) = [] := by
  unfold pauseAfter
  split <;> rfl

@[simp] theorem begun_closing (finish : Moment) (report : Report) :
    begun (closing finish report) = [] := by
  cases hc : report.cancelled <;> simp [closing, hc, begun, Exchange.begins?]

@[simp] theorem writesFrom_closing (last : Option Moment) (finish : Moment) (report : Report) :
    writesFrom last (closing finish report) = [] := rfl

theorem rounds_append (past first second : List Reply) :
    rounds s start past (first ++ second) =
      rounds s start past first ++ rounds s start (past ++ first) second := by
  induction first generalizing past with
  | nil => simp [rounds]
  | cons reply first ih => simp [rounds, ih]

theorem begun_rounds (past next : List Reply) :
    begun (rounds s start past next) = List.range' (past.length + 1) next.length := by
  induction next generalizing past with
  | nil => rfl
  | cons reply next ih =>
    rw [rounds, begun_append, ih, List.length_append, List.length_singleton, List.length_cons,
      List.range'_succ]
    have hround : begun (round s start past reply) = [past.length + 1] := by
      rw [round, begun_append, begun_pauseAfter, List.append_nil]
      show (past.length + 1) :: begun (complaint s start past reply) = [past.length + 1]
      rw [begun_complaint]
    rw [hround, List.singleton_append]

theorem writesFrom_round (last : Option Moment) (past : List Reply) (reply : Reply) :
    writesFrom last (round s start past reply) = [reply.write s (past.length + 1)] := by
  simp [round, trial, writesFrom_append, writesFrom, Reply.write]

theorem writesFrom_rounds (last : Option Moment) (past next : List Reply) :
    written s past ++ writesFrom last (rounds s start past next) = written s (past ++ next) := by
  induction next generalizing last past with
  | nil => simp [rounds, writesFrom]
  | cons reply next ih =>
    rw [rounds, writesFrom_append, writesFrom_round, ← List.append_assoc,
      ← written_append_singleton, ih, List.append_assoc, List.singleton_append]

theorem writes_approach (clipboard : RawText) (replies : List Reply) :
    writes (approach clipboard s start replies) = written s replies :=
  writesFrom_rounds s start (some start) [] replies

/-- Nothing is written after the check after the last event. -/
theorem writes_append_closing (clipboard : RawText) (replies : List Reply) (finish : Moment)
    (report : Report) :
    writes (approach clipboard s start replies ++ closing finish report) = written s replies := by
  rw [writes, writesFrom_append, writesFrom_closing, List.append_nil, ← writes, writes_approach]

theorem begun_approach (clipboard : RawText) (replies : List Reply) :
    begun (approach clipboard s start replies) = List.range' 1 replies.length := by
  rw [approach, begun_append, begun_rounds]
  rfl

end Reading

end ClipCadence.Run
