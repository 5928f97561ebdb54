import ClipCadence.Proofs.Run.Recorded

/-!
What a rehearsal gives to its clipboard. The texts are the payloads of its first events, in order,
one call for each, and if the rehearsal ends in a report, of all events that the report counts. If
the clipboard answers each write by its number alone, then that is also what the report says of
each event.

Main statement: `World.rehearse_delivers`.
-/

namespace ClipCadence

open Number Text Run

/-! ### Deliveries -/

/-- A text that is given to a clipboard: the call that does so, and the time that was last looked
at before it. -/
structure Delivery where
  moment : Option Moment
  call : Call
  deriving DecidableEq

def deliveriesFrom (last : Option Moment) : List Call → List Delivery
  | [] => []
  | .now moment :: rest => deliveriesFrom (some moment) rest
  | .sleep _ :: rest => deliveriesFrom last rest
  | .copy text :: rest => ⟨last, .copy text⟩ :: deliveriesFrom last rest
  | .start call :: rest => ⟨last, .start call⟩ :: deliveriesFrom last rest
  | .tell .. :: rest => deliveriesFrom last rest

/-- The texts that some calls give to clipboards, in order. -/
def deliveries (calls : List Call) : List Delivery := deliveriesFrom none calls

/-- The events of a run that looks at the clock at some moments, one for each event. -/
def Event.series (label : String) (moments : List Moment) : List Event :=
  (moments.zipIdx 1).map fun (moment, index) => Event.make label index moment

def Clipboard.delivery (clipboard : Clipboard) (event : Event) : Delivery :=
  ⟨some event.moment, clipboard.call event.payload⟩

/-- What a report says about an event whose write has some result. -/
def Event.failure? (event : Event) : Except CopyError Unit → Option Failure
  | .ok () => none
  | .error error => some ⟨event.index, event.payload, error.message⟩

theorem deliveriesFrom_recorded (progress : Progress) (clipboard : Clipboard)
    (last : Option Moment) (calls : History) :
    deliveriesFrom last (calls.flatMap (·.recorded progress clipboard.call)) =
      (writesFrom last calls).map fun write => ⟨write.moment, clipboard.call write.text⟩ := by
  induction calls generalizing last with
  | nil => rfl
  | cons call rest ih =>
    rw [List.flatMap_cons]
    cases call with
    | now moment => exact ih (some moment)
    | sleep seconds => exact ih last
    | copy text result => cases clipboard <;> exact congrArg (_ :: ·) (ih last)
    | tell notice report => cases progress <;> exact ih last

/-! ### Events -/

theorem Event.series_append_singleton (label : String) (moments : List Moment) (moment : Moment) :
    series label (moments ++ [moment]) =
      series label moments ++ [make label (moments.length + 1) moment] := by
  simp [series, List.zipIdx_append, Nat.add_comm 1]

theorem Event.length_series (label : String) (moments : List Moment) :
    (series label moments).length = moments.length := by
  simp [series]

theorem written_eq_series (s : Settings) (replies : List Reply) :
    (written s replies).map (fun write => (write.moment, write.text)) =
      (Event.series s.label (replies.map Reply.moment)).map
        fun event => (some event.moment, event.payload) := by
  simp [written, Event.series, List.zipIdx_map, make_eq, Reply.write, Function.comp_def]

/-- The texts that are written are the payloads of the events. -/
theorem texts_written (s : Settings) (replies : List Reply) :
    (written s replies).map Write.text =
      (Event.series s.label (replies.map Reply.moment)).map Event.payload := by
  have htexts := congrArg (List.map Prod.snd) (written_eq_series s replies)
  rwa [List.map_map, List.map_map] at htexts

theorem failureAt_write (s : Settings) (reply : Reply) (index : Nat) :
    failureAt (reply.write s index) index =
      (Event.make s.label index reply.moment).failure? reply.result := by
  rw [make_eq, failureAt, Reply.write]
  cases reply.result <;> rfl

/-- The failures among some writes whose results depend on their numbers only. -/
theorem failuresOf_written {verdict : Nat → Except CopyError Unit} (s : Settings)
    {replies : List Reply} (h : ∀ n reply, replies[n]? = some reply → reply.result = verdict n) :
    failuresOf (written s replies) =
      (Event.series s.label (replies.map Reply.moment)).filterMap
        fun event => event.failure? (verdict (event.index - 1)) := by
  induction replies using List.reverseRecOn with
  | nil => rfl
  | append_singleton past reply ih =>
    have hlast : reply.result = verdict past.length := h past.length reply (by simp)
    have hpast := ih fun n earlier hn => h n earlier <| by
      rw [List.getElem?_append_left (List.getElem?_eq_some_iff.mp hn).1, hn]
    rw [written_append_singleton, failuresOf_append_singleton, hpast, length_written,
      failureAt_write, hlast, List.map_append, List.map_singleton, Event.series_append_singleton,
      List.filterMap_append, List.length_map]
    rfl

/-! ### Results of writes -/

theorem getElem?_written (s : Settings) (replies : List Reply) (n : Nat) :
    (written s replies)[n]? = replies[n]?.map fun reply => reply.write s (n + 1) := by
  simp [written, List.getElem?_zipIdx, Nat.add_comm, Function.comp_def]

/-- Where a write comes from. -/
theorem exists_copy {calls : History} (last : Option Moment) {n : Nat} {write : Write}
    (h : (writesFrom last calls)[n]? = some write) :
    ∃ before after, calls = before ++ .copy write.text write.result :: after ∧
      (writesFrom last before).length = n := by
  induction calls generalizing last n with
  | nil => cases h
  | cons call rest ih =>
    cases call with
    | now moment =>
      obtain ⟨before, after, rfl, hlength⟩ := ih (some moment) h
      exact ⟨.now moment :: before, after, rfl, hlength⟩
    | sleep seconds =>
      obtain ⟨before, after, rfl, hlength⟩ := ih last h
      exact ⟨.sleep seconds :: before, after, rfl, hlength⟩
    | tell notice report =>
      obtain ⟨before, after, rfl, hlength⟩ := ih last h
      exact ⟨.tell notice report :: before, after, rfl, hlength⟩
    | copy text result =>
      cases n with
      | zero =>
        obtain rfl := Option.some.inj h
        exact ⟨[], rest, rfl, rfl⟩
      | succ n =>
        obtain ⟨before, after, rfl, hlength⟩ := ih last h
        exact ⟨.copy text result :: before, after, rfl, congrArg (· + 1) hlength⟩

namespace Run.Surroundings

variable (env : Surroundings)

/-- A write is answered as the surroundings answer after the writes before it. -/
theorem result_of_gives {calls : History} (h : Along env.Gives [] calls) {n : Nat} {write : Write}
    (hwrite : (writes calls)[n]? = some write) :
    ∃ before, (writes before).length = n ∧ write.result = env.copy before write.text := by
  obtain ⟨before, after, rfl, hlength⟩ := exists_copy none hwrite
  exact ⟨before, hlength, h.at⟩

theorem report_eq_account (s : Settings) :
    (env.report s).attempted = (writes (env.history s)).length ∧
      (env.report s).failures = failuresOf (writes (env.history s)) := by
  obtain ⟨replies, -, hreport, -, hwritten⟩ := env.course s
  rw [hreport, hwritten]
  exact ⟨rfl, rfl⟩

variable {env}

/-- What the report of a run says, if its writes are answered by their numbers. -/
theorem report_of_verdict {verdict : Nat → Except CopyError Unit}
    (hanswer : ∀ past text, env.copy past text = verdict (writes past).length) {s : Settings}
    {replies : List Reply} (hwritten : writes (env.history s) = written s replies) :
    (env.report s).attempted = replies.length ∧
      (env.report s).failures = (Event.series s.label (replies.map Reply.moment)).filterMap
        fun event => event.failure? (verdict (event.index - 1)) := by
  obtain ⟨hattempted, hfailures⟩ := env.report_eq_account s
  rw [hattempted, hfailures, hwritten, length_written]
  refine ⟨rfl, failuresOf_written s fun n reply hreply => ?_⟩
  have hwrite : (writes (env.history s))[n]? = some (reply.write s (n + 1)) := by
    rw [hwritten, getElem?_written, hreply, Option.map_some]
  obtain ⟨before, rfl, hresult⟩ := env.result_of_gives (env.gives_history s) hwrite
  exact hresult.trans (hanswer before _)

end Run.Surroundings

namespace World

/-- A world for a run over a clipboard: nothing has been called in it, and no write to memory
crashes. The rest is as in the given world. -/
def around (w : World) (clipboard : Clipboard) : World :=
  { w with clipboard := clipboard, crashOn := [], calls := [] }

variable (w : World) (progress : Progress) (s : Settings)

/-- **What a rehearsal gives to its clipboard**, if the clipboard answers each write by its
number: the payloads of some first events, one call for each. If there is a report it counts these
events, and lists as failed those whose writes are answered so. -/
theorem rehearse_delivers (verdict : Nat → Except CopyError Unit)
    (hanswer : ∀ past text, (w.after progress past).answer text = verdict (writes past).length) :
    ∃ made moments, w.Tracks progress made (w.rehearse progress s).2 ∧
      (writes made).map Write.text = (Event.series s.label moments).map Event.payload ∧
      (∃ calls, (w.rehearse progress s).2.calls = w.calls ++ calls ∧
        deliveries calls = (Event.series s.label moments).map w.clipboard.delivery) ∧
      ∀ report, (w.rehearse progress s).1 = .ok report →
        report.attempted = moments.length ∧
          report.failures = (Event.series s.label moments).filterMap
            fun event => event.failure? (verdict (event.index - 1)) := by
  obtain ⟨made, hprefix, htracks, hcalls, hreport⟩ := w.rehearse_made progress s
  obtain ⟨replies, -, hwritten⟩ := (w.surroundings progress).exists_written_of_isPrefix s hprefix
  refine ⟨made, replies.map Reply.moment, htracks, ?texts, ⟨_, hcalls, ?deliveries⟩, ?report⟩
  case texts => rw [hwritten, texts_written]
  case deliveries =>
    have hseries := written_eq_series s replies
    rw [← hwritten] at hseries
    have hmap := congrArg (List.map fun entry : Option Moment × String =>
      (⟨entry.1, w.clipboard.call entry.2⟩ : Delivery)) hseries
    rw [List.map_map, List.map_map] at hmap
    exact (deliveriesFrom_recorded progress w.clipboard none made).trans hmap
  case report =>
    intro report h
    obtain ⟨rfl, rfl⟩ := hreport report h
    rw [List.length_map]
    exact Surroundings.report_of_verdict hanswer hwritten

end World

end ClipCadence
