import ClipCadence.Clipboard.Session
import ClipCadence.Proofs.Clipboard.Deliveries
import ClipCadence.Proofs.Run.Completion

/-!
Writing through a tool. The command of the tool is chosen before the run. Each event starts it once,
and what a start comes to depends on the tool and on how this start ends, not on the starts before
it, so each failure in the report belongs to the event whose start failed.

Main statement: `starts_once_per_event`.
-/

namespace ClipCadence

open Number Text Run

/-- What a write through a tool comes to, given how its start ends, if that is known; a start that
nothing is known of succeeds. -/
def Tool.verdict (tool : Tool) : Option Outcome → Except CopyError Unit
  | some (.failed failure) => .error (tool.error failure)
  | _ => .ok ()

/-- What a report says about an event that was written by starting a tool. -/
def Event.startFailure? (event : Event) (name : RawText) (timeout : Binary64) :
    Option Outcome → Option Failure
  | some (.failed failure) => some ⟨event.index, event.payload, failure.message name timeout⟩
  | _ => none

theorem Event.failure?_verdict (event : Event) (tool : Tool) (outcome : Option Outcome) :
    event.failure? (tool.verdict outcome) =
      event.startFailure? tool.name tool.timeout outcome := by
  rcases outcome with _ | _ | _ | _ <;> rfl

/-! ### The tool of a session -/

namespace Tool

variable {backend : Option RawText} {command : Option Argv} {timeout : Binary64}
  {machine : Machine} {tool : Tool} {logs : List Log.Record}

theorem timeout_of_resolve (h : resolve backend command timeout machine = .ok (tool, logs)) :
    tool.timeout = timeout := by
  unfold resolve at h
  split at h
  · split at h
    · cases h
      rfl
    · cases h
  · split at h
    · obtain ⟨found, -, h⟩ := Fallible.bind_eq_ok_iff.mp h
      split at h
      · cases h
        rfl
      · cases h
    · obtain ⟨found, -, h⟩ := Fallible.bind_eq_ok_iff.mp h
      cases h
      rfl

end Tool

namespace Session

variable {session next : Session} {machine : Machine} {clipboard : Clipboard}
  {logs : List Log.Record}

/-- After an access that succeeds the session has its clipboard. -/
theorem clipboard_of_access (h : session.access machine = .ok (clipboard, next, logs)) :
    next.clipboard = some clipboard := by
  unfold access at h
  split at h
  · next hclipboard =>
    cases h
    exact hclipboard
  · obtain ⟨⟨chosen, records⟩, -, h⟩ := Fallible.map_eq_ok_iff.mp h
    cases h
    rfl

/-- Once a session has its clipboard every access gives the same one, on whatever machine. -/
theorem access_of_clipboard (h : session.clipboard = some clipboard) (later : Machine) :
    session.access later = .ok (clipboard, session, []) := by
  rw [access, h]

/-- A tool that a new session chooses is the one that its settings ask for on the machine. -/
theorem resolve_of_access {s : Settings} {dryRun : Bool} {tool : Tool}
    (h : (start s dryRun).access machine = .ok (.tool tool, next, logs)) :
    Tool.resolve s.backend s.command s.timeout machine = .ok (tool, logs) := by
  obtain ⟨⟨chosen, records⟩, hchoose, h⟩ := Fallible.map_eq_ok_iff.mp h
  cases h
  unfold choose at hchoose
  split at hchoose
  · cases hchoose
  · obtain ⟨⟨found, records⟩, hresolve, h⟩ := Fallible.map_eq_ok_iff.mp hchoose
    cases h
    exact hresolve

end Session

/-! ### Starts -/

namespace World

variable {w : World} {tool : Tool} (progress : Progress)

theorem answer_tool (h : w.clipboard = .tool tool) (text : String) :
    w.answer text = tool.verdict w.outcomes.head? := by
  rw [answer, Rehearsal.copy_run_tool h]
  rcases w.outcomes.head? with _ | _ | _ | _ <;> rfl

/-- The write after some others comes to what its own outcome says. -/
theorem answer_after_tool (h : w.clipboard = .tool tool) (past : History) (text : String) :
    (w.after progress past).answer text = tool.verdict w.outcomes[(writes past).length]? := by
  obtain ⟨hclipboard, houtcomes⟩ := after_tool progress h past
  rw [answer_tool hclipboard, houtcomes, List.head?_drop]

/-- A run over a tool leaves the tool as it is. -/
theorem clipboard_rehearse_tool (h : w.clipboard = .tool tool) (s : Settings) :
    (w.rehearse progress s).2.clipboard = .tool tool := by
  obtain ⟨made, -, ⟨logs, hworld⟩, -⟩ := w.rehearse_made progress s
  rw [hworld]
  exact (after_tool progress h made).1

theorem rehearse_ne_bug_of_tool (h : w.clipboard = .tool tool)
    (hknown : Outcome.crashed ∉ w.outcomes) (s : Settings) :
    (w.rehearse progress s).1 ≠ .error .bug := by
  intro hbug
  obtain ⟨past, text, result, hcopy⟩ := w.exists_copy_of_bug progress hbug
  obtain ⟨hclipboard, houtcomes⟩ := after_tool progress h past
  rw [make_copy_tool progress hclipboard, houtcomes, List.head?_drop] at hcopy
  have houtcome : w.outcomes[(writes past).length]? = some .crashed := by
    by_contra hne
    simp [hne] at hcopy
  exact hknown (List.mem_of_getElem? houtcome)

end World

/-- **One start for each event.** A session that has chosen a tool on some machine keeps it, however
the machine changes. A run over this tool starts it once for each event that it attempts, with the
command and the time that were fixed by the choice, and hands it the payload of the event and
nothing else; nothing else is written. However these starts end, the run sees no failure but those
of writes, so it ends in its report if its clock lasts and its notices can be shown. An event is
listed as failed in the report if and only if its own start did not succeed, with an error that
depends on the name of the tool, the time and the end of this start only. -/
theorem starts_once_per_event (machine : Machine) (s : Settings) (dryRun : Bool) (tool : Tool)
    (session : Session) (logs : List Log.Record) (w : World) (progress : Progress)
    (hresolved : (Session.start s dryRun).access machine = .ok (.tool tool, session, logs))
    (hknown : Outcome.crashed ∉ w.outcomes) :
    let ending := (w.around (.tool tool)).rehearse progress s
    (∀ later, session.access later = .ok (.tool tool, session, [])) ∧
      ending.1 ≠ .error .bug ∧
      (Rehearsal.Shows tool.name progress → w.lasts s = true →
        ∃ report, ending.1 = .ok report) ∧
      ∃ moments,
        let events := Event.series s.label moments
        deliveries ending.2.calls = events.map (fun event =>
            ⟨some event.moment, .start ⟨tool.command, event.payload, s.timeout⟩⟩) ∧
          ∀ report, ending.1 = .ok report →
            report.attempted = events.length ∧
              report.failures = events.filterMap fun event =>
                event.startFailure? tool.name s.timeout w.outcomes[event.index - 1]? := by
  intro ending
  have htimeout : tool.timeout = s.timeout :=
    Tool.timeout_of_resolve (Session.resolve_of_access hresolved)
  have hclipboard : (w.around (.tool tool)).clipboard = .tool tool := rfl
  obtain ⟨-, moments, -, -, ⟨calls, hcalls, hdeliveries⟩, hreport⟩ :=
    (w.around (.tool tool)).rehearse_delivers progress s (fun n => tool.verdict w.outcomes[n]?)
      (World.answer_after_tool progress hclipboard)
  refine ⟨Session.access_of_clipboard (Session.clipboard_of_access hresolved),
    World.rehearse_ne_bug_of_tool progress hclipboard hknown s, fun hshows hlasts => ?ends,
    moments, ?starts, fun report h => ?failures⟩
  case ends =>
    obtain ⟨report, after, hending⟩ :=
      World.rehearse_ends (w := w.around (.tool tool)) hshows rfl hknown hlasts
    exact ⟨report, congrArg Prod.fst hending⟩
  case starts =>
    rw [hcalls, ← htimeout]
    exact hdeliveries
  case failures =>
    obtain ⟨hattempted, hfailures⟩ := hreport report h
    refine ⟨by rw [hattempted, Event.length_series], ?_⟩
    simp only [hfailures, Event.failure?_verdict, htimeout]

/-- Three starts, of which the second one fails and the third one takes too long. -/
theorem starts_once_per_event_xclip :
    let machine : Machine := ⟨"linux", some "", [.ofString "xsel", .ofString "xclip"]⟩
    let s : Settings := { Settings.defaults with count := 3 }
    let xclip : Tool :=
      ⟨.ofString "xclip", ["xclip", "-selection", "clipboard"].map .ofString, s.timeout⟩
    let session : Session := { Session.start s false with clipboard := some (.tool xclip) }
    let outcomes : List Outcome :=
      [.done, .failed (.exited 1 (Utf8.encode "no display\n".toList)), .failed .timedOut]
    let w : World := ⟨default, 0, .memory (.empty []), [], outcomes, none, false, [], [], []⟩
    (∃ logs, (Session.start s false).access machine = .ok (.tool xclip, session, logs)) ∧
      Outcome.crashed ∉ w.outcomes ∧
      ∃ report moments, ((w.around (.tool xclip)).rehearse .recorded s).1 = .ok report ∧
        deliveries ((w.around (.tool xclip)).rehearse .recorded s).2.calls =
            (Event.series s.label moments).map (fun event =>
              ⟨some event.moment, .start ⟨xclip.command, event.payload, s.timeout⟩⟩) ∧
          report.attempted = 3 ∧ report.failures.map Failure.index = [2, 3] := by
  intro machine s xclip session outcomes w
  let backend : Backend := ⟨"xclip", ["-selection", "clipboard"], ["linux", "freebsd"], false⟩
  have hdetect : Backend.detect machine = .ok backend :=
    Backend.detect_eq_ok_iff.mpr (by decide)
  have hresolved : (Session.start s false).access machine =
      .ok (.tool xclip, session, [backend.detection]) := by
    have hresolve : Tool.resolve s.backend s.command s.timeout machine =
        .ok (xclip, [backend.detection]) := by
      show (Backend.detect machine >>= _) = _
      rw [hdetect]
      rfl
    show ((Tool.resolve s.backend s.command s.timeout machine).map _).map _ = _
    rw [hresolve]
    rfl
  have hknown : Outcome.crashed ∉ w.outcomes := by decide
  have hlasts : w.lasts s = true := by decide +kernel
  have hfailed : ((w.around (.tool xclip)).rehearse .recorded s).1.toOption.map
      (fun report => (report.attempted, report.failures.map Failure.index)) =
        some (3, [2, 3]) := by
    decide +kernel
  obtain ⟨-, -, hends, moments, hdeliveries, -⟩ :=
    starts_once_per_event machine s false xclip session _ w .recorded hresolved hknown
  obtain ⟨report, hreport⟩ := hends trivial hlasts
  rw [hreport] at hfailed
  obtain ⟨hattempted, hindices⟩ := Prod.mk.inj (Option.some.inj hfailed)
  exact ⟨⟨_, hresolved⟩, hknown, report, moments, hreport, hdeliveries, hattempted, hindices⟩

end ClipCadence
