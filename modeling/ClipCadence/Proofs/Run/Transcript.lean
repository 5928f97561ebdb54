import ClipCadence.Proofs.Console.Notices
import ClipCadence.Proofs.Run.Accounting
import ClipCadence.Proofs.Run.Showing

/-!
What a run shows on the console. The transcript of a report is made of the lines of the header, for
each event that was attempted the line that says so and the lines for its failure, if it failed, and
a last line. A run prints the transcript of its report, on a console that is wide enough for it; but
if the name of the clipboard cannot be printed, the run ends at the header.

The script of a run says which notices it makes, so the transcript follows by induction on the
events: one more event adds its own lines, and changes nothing about the failures that are found for
those before it. What a text from outside can do to the transcript is known from the lines of one
notice.

Main statement: `run_shows_transcript`. `line_feed_forges_done` is a run whose tool ends the
transcript before its time.
-/

namespace ClipCadence

open Console Number Run Text

/-! ### Transcripts -/

/-- The lines for a failure, if there is one. -/
def complaintLines : Option Failure → List Line
  | none => []
  | some failure => wholeLines (failureShown failure.index failure.error.toList)

/-- The lines for an event: one for the attempt and, if it failed, those for the failure. -/
def eventLines (failures : List Failure) (index : Nat) : List Line :=
  copyingLine index :: complaintLines (failures.find? (·.index = (index : Int)))

def headerLines (s : Settings) (clipboard : RawText) : List Line :=
  wholeLines (headerShown s.count s.delay clipboard.display.toList)

def lastLine (report : Report) : Line :=
  if report.cancelled then interruptedLine report.attempted report.requested else doneLine

/-- What a run shows that ends in a report. -/
def transcript (s : Settings) (clipboard : RawText) (report : Report) : List Line :=
  headerLines s clipboard ++
    (List.range' 1 report.attempted).flatMap (eventLines report.failures) ++ [lastLine report]

namespace Run

/-! ### The failures of a report -/

theorem index_of_failureAt {write : Write} {index : Nat} {failure : Failure}
    (h : failureAt write index = some failure) : failure.index = index := by
  unfold failureAt at h
  split at h
  · cases h
  · rw [← Option.some.inj h]

theorem index_of_mem_failuresOf {ws : List Write} {failure : Failure}
    (h : failure ∈ failuresOf ws) :
    ∃ index : Nat, failure.index = index ∧ 1 ≤ index ∧ index ≤ ws.length := by
  obtain ⟨⟨write, index⟩, hentry, hfailure⟩ := List.mem_filterMap.mp h
  obtain ⟨hlow, hhigh, -⟩ := List.mem_zipIdx hentry
  exact ⟨index, index_of_failureAt hfailure, hlow, by omega⟩

/-- One more write changes nothing about the events before it. -/
theorem find_failuresOf_of_le {ws : List Write} {index : Nat} (h : index ≤ ws.length)
    (write : Write) :
    (failuresOf (ws ++ [write])).find? (·.index = (index : Int)) =
      (failuresOf ws).find? (·.index = (index : Int)) := by
  have hlater : (failureAt write (ws.length + 1)).toList.find? (·.index = (index : Int)) =
      none := by
    rw [List.find?_eq_none]
    intro failure hfailure hindex
    have hlast := index_of_failureAt (Option.mem_toList.mp hfailure)
    have := of_decide_eq_true hindex
    omega
  rw [failuresOf_append_singleton, List.find?_append, hlater, Option.or_none]

theorem find_failuresOf_last (ws : List Write) (write : Write) :
    (failuresOf (ws ++ [write])).find? (·.index = ((ws.length + 1 : Nat) : Int)) =
      failureAt write (ws.length + 1) := by
  have hearlier : (failuresOf ws).find? (·.index = ((ws.length + 1 : Nat) : Int)) = none := by
    rw [List.find?_eq_none]
    intro failure hfailure hindex
    obtain ⟨index, hfound, -, hle⟩ := index_of_mem_failuresOf hfailure
    have := of_decide_eq_true hindex
    omega
  rw [failuresOf_append_singleton, List.find?_append, hearlier, Option.none_or]
  cases hfailure : failureAt write (ws.length + 1) with
  | none => rfl
  | some failure => simp [index_of_failureAt hfailure]

/-! ### The lines of the script -/

/-- The lines of a call on a console that they fit on. -/
def Exchange.shown : Exchange → List Line
  | .tell notice report => wholeLines (notice.shown report)
  | _ => []

section Script

variable (s : Settings) (start : Moment)

theorem shown_complaint (past : List Reply) (reply : Reply) :
    (complaint s start past reply).flatMap Exchange.shown =
      complaintLines (failureAt (reply.write s (past.length + 1)) (past.length + 1)) := by
  obtain ⟨moment, result⟩ := reply
  cases result with
  | ok done => rfl
  | error error => exact List.append_nil _

theorem shown_pauseAfter (index : Nat) : (pauseAfter s index).flatMap Exchange.shown = [] := by
  unfold pauseAfter
  split <;> rfl

theorem shown_round (past : List Reply) (reply : Reply) :
    (round s start past reply).flatMap Exchange.shown =
      copyingLine (past.length + 1 : Nat) ::
        complaintLines (failureAt (reply.write s (past.length + 1)) (past.length + 1)) := by
  have hcopying : wholeLines (copyingLine (past.length + 1 : Nat)) =
      [copyingLine (past.length + 1 : Nat)] := (literal_copyingLine _).wholeLines
  rw [round, trial, List.flatMap_append, shown_pauseAfter, List.append_nil, ← shown_complaint]
  show wholeLines (copyingLine (past.length + 1 : Nat)) ++ _ = _
  rw [hcopying]
  rfl

/-- The lines of the rounds, by induction on the events from the last one: one more event adds its
own lines, and the failures before it are found as before. -/
theorem shown_rounds (replies : List Reply) :
    (rounds s start [] replies).flatMap Exchange.shown =
      (List.range' 1 replies.length).flatMap (eventLines (failuresOf (written s replies))) := by
  induction replies using List.reverseRecOn with
  | nil => rfl
  | append_singleton past reply ih =>
    have hlast : rounds s start past [reply] = round s start past reply := List.append_nil _
    have hfailure := find_failuresOf_last (written s past) (reply.write s (past.length + 1))
    rw [length_written] at hfailure
    have hearlier : ∀ index ∈ List.range' 1 past.length,
        eventLines (failuresOf (written s past ++ [reply.write s (past.length + 1)])) index =
          eventLines (failuresOf (written s past)) index := by
      intro index hindex
      have hle : index ≤ (written s past).length := by
        rw [length_written]
        have := List.mem_range'_1.mp hindex
        omega
      rw [eventLines, find_failuresOf_of_le hle, eventLines]
    rw [rounds_append, List.nil_append, hlast, List.flatMap_append, ih, shown_round,
      List.length_append, List.length_singleton, List.range'_1_concat, List.flatMap_append,
      List.flatMap_singleton, written_append_singleton, List.flatMap_congr hearlier,
      Nat.add_comm 1, eventLines, hfailure]

theorem shown_closing (finish : Moment) (report : Report) :
    (closing finish report).flatMap Exchange.shown = [lastLine report] := by
  unfold closing lastLine
  cases report.cancelled with
  | true => exact (List.append_nil _).trans (literal_interruptedLine _ _).wholeLines
  | false => exact (List.append_nil _).trans literal_doneLine.wholeLines

theorem shown_opening (clipboard : RawText) :
    (opening clipboard s start).flatMap Exchange.shown = headerLines s clipboard :=
  List.append_nil _

end Script

/-- The lines of a run are the transcript of its report. -/
theorem Surroundings.shown_history (env : Surroundings) (s : Settings) :
    (env.history s).flatMap Exchange.shown = transcript s env.clipboard (env.report s) := by
  obtain ⟨replies, -, hreport, hhistory, -⟩ := env.course s
  have hattempted : (env.report s).attempted = replies.length := by
    rw [hreport]
    exact length_written s replies
  have hfailures : (env.report s).failures = failuresOf (written s replies) := by rw [hreport]; rfl
  rw [hhistory, List.flatMap_append, approach, List.flatMap_append, shown_opening, shown_rounds,
    shown_closing, transcript, hattempted, hfailures]

/-- The failures of a run are listed in order, each with the index of an event that was attempted.
-/
theorem Surroundings.failures_report (env : Surroundings) (s : Settings) :
    (env.report s).failures.Pairwise (·.index < ·.index) ∧
      ∀ failure ∈ (env.report s).failures, ∃ index : Nat, failure.index = index ∧ 1 ≤ index ∧
        index ≤ (env.report s).attempted := by
  obtain ⟨replies, hreplied, hreport, -⟩ := env.course s
  have haccounts := accounts_written s (env.now []) hreplied.length_le
  rw [hreport]
  refine ⟨haccounts.increasing, fun failure hfailure => ?_⟩
  obtain ⟨n, -, -, hindex, hn, -⟩ := haccounts.failures failure hfailure
  exact ⟨n + 1, hindex, Nat.le_add_left 1 n, hn⟩

end Run

/-! ### The lines of an event -/

theorem find_failure {failures : List Failure} (h : failures.Pairwise (·.index < ·.index))
    {failure : Failure} (hmem : failure ∈ failures) :
    failures.find? (·.index = failure.index) = some failure := by
  induction failures with
  | nil => cases hmem
  | cons first rest ih =>
    obtain ⟨hfirst, hrest⟩ := List.pairwise_cons.mp h
    rcases List.mem_cons.mp hmem with rfl | hmem
    · exact List.find?_cons_of_pos (decide_eq_true rfl)
    · have hne : first.index ≠ failure.index := Int.ne_of_lt (hfirst failure hmem)
      rw [List.find?_cons_of_neg (by simpa using hne)]
      exact ih hrest hmem

theorem eventLines_of_mem {failures : List Failure} (h : failures.Pairwise (·.index < ·.index))
    {failure : Failure} (hmem : failure ∈ failures) {index : Nat} (hindex : failure.index = index) :
    eventLines failures index = copyingLine index :: complaintLines (some failure) := by
  rw [eventLines, ← hindex, find_failure h hmem]

theorem eventLines_of_forall {failures : List Failure} {index : Nat}
    (h : ∀ failure ∈ failures, failure.index ≠ index) :
    eventLines failures index = [copyingLine index] := by
  have hnone : failures.find? (·.index = (index : Int)) = none := by
    simpa [List.find?_eq_none] using h
  rw [eventLines, hnone, complaintLines]

/-! ### Marks -/

/-- Whether a line is the last one of a run that was not cancelled, or starts like those that say
that an event begins. -/
def isMark (line : Line) : Bool :=
  line == doneLine || "Copying test item ".toList.isPrefixOf line

theorem isMark_copyingLine (index : Int) : isMark (copyingLine index) = true := by
  have hfront : "Copying test item ".toList.isPrefixOf (copyingLine index) = true :=
    List.isPrefixOf_iff_prefix.mpr (List.prefix_append _ _)
  rw [isMark, hfront, Bool.or_true]

/-- A line that starts with neither of the letters that marks start with is none. -/
theorem isMark_of_prefix {first : Char} {front line : Line} (h : first :: front <+: line)
    (hdone : first ≠ 'D') (hcopying : first ≠ 'C') : isMark line = false := by
  obtain ⟨rest, rfl⟩ := h
  have hend : (first :: front ++ rest == doneLine) = false :=
    beq_eq_false_iff_ne.mpr fun heq => hdone (List.cons.inj heq).1
  have hfront : "Copying test item ".toList.isPrefixOf (first :: front ++ rest) = false := by
    rw [Bool.eq_false_iff, Ne, List.isPrefixOf_iff_prefix]
    exact fun hprefix => hcopying (List.cons_prefix_cons.mp hprefix).1.symm
  rw [isMark, hend, hfront, Bool.or_false]

theorem filter_headerLines (s : Settings) {clipboard : RawText}
    (h : '\n' ∉ clipboard.display.toList) : (headerLines s clipboard).filter isMark = [] := by
  obtain ⟨line, hline, hfront⟩ :=
    (headed_header s.count s.delay clipboard.display).eq_singleton h
  have hmark : isMark line = false := isMark_of_prefix hfront (by decide) (by decide)
  rw [headerLines, hline, List.filter_singleton, hmark]
  rfl

theorem filter_complaintLines {failures : List Failure}
    (h : ∀ failure ∈ failures, '\n' ∉ failure.error.toList) (p : Failure → Bool) :
    (complaintLines (failures.find? p)).filter isMark = [] := by
  cases hfound : failures.find? p with
  | none => rfl
  | some failure =>
    obtain ⟨line, hline, hfront⟩ := (headed_failure failure.index failure.error).eq_singleton
      (h failure (List.mem_of_find?_eq_some hfound))
    have hmark : isMark line = false := isMark_of_prefix hfront (by decide) (by decide)
    rw [complaintLines, hline, List.filter_singleton, hmark]
    rfl

theorem filter_lastLine (report : Report) :
    [lastLine report].filter isMark = if report.cancelled then [] else [doneLine] := by
  unfold lastLine
  cases report.cancelled with
  | true =>
    have hmark : isMark (interruptedLine report.attempted report.requested) = false :=
      isMark_of_prefix (List.prefix_append _ _) (by decide) (by decide)
    simp [hmark]
  | false => rfl

/-- Without a line feed in a text from outside, the marks in a transcript are the lines that say
that its events begin and its last line, if it was not cancelled. -/
theorem filter_transcript {s : Settings} {clipboard : RawText} {report : Report}
    (hname : '\n' ∉ clipboard.display.toList)
    (herrors : ∀ failure ∈ report.failures, '\n' ∉ failure.error.toList) :
    (transcript s clipboard report).filter isMark =
      (List.range' 1 report.attempted).map (fun index : Nat => copyingLine index) ++
        if report.cancelled then [] else [doneLine] := by
  have hevent (index : Nat) :
      (eventLines report.failures index).filter isMark = [copyingLine index] := by
    rw [eventLines, List.filter_cons_of_pos (isMark_copyingLine _), filter_complaintLines herrors]
  rw [transcript, List.filter_append, List.filter_append, filter_headerLines s hname,
    List.nil_append, List.filter_flatMap, filter_lastLine, List.map_eq_flatMap]
  simp only [hevent]

/-! ### Runs -/

/-- On a console that is wide enough for it, a run prints the transcript of its report. -/
theorem World.printed_transcript {w : World} {width : Nat} {s : Settings} {report : Report}
    (hname : canPrint width w.clipboard.name = true)
    (hreport : (w.rehearse (.printed (progress width false)) s).1 = .ok report) (hwidth : 0 < width)
    (hfits : ∀ line ∈ transcript s w.clipboard.name report, extent line ≤ width) :
    (w.rehearse (.printed (progress width false)) s).2.printed =
      w.printed ++ transcript s w.clipboard.name report := by
  obtain ⟨rfl, hprinted⟩ := w.rehearse_printed (progress width false) hreport
  have hshown := (w.surroundings (.printed (progress width false))).shown_history s
  have hlines : ∀ call ∈ (w.surroundings (.printed (progress width false))).history s,
      call.lines (progress width false) = call.shown := by
    intro call hcall
    cases call with
    | tell notice report =>
      have hnotice : Fits width (notice.shown report) := by
        intro line hline
        refine hfits line (hshown ▸ List.mem_flatMap.mpr ⟨_, hcall, hline⟩)
      have hnames := w.names_history _ hcall
      rw [Exchange.lines, progress_fits hwidth (hnames.canPrint hname) hnotice]
      rfl
    | now | sleep | copy => rfl
  rw [hprinted, List.flatMap_congr hlines, hshown]
  rfl

/-- Shows nothing of a notice, and fails if the console does. -/
def quiet (width : Nat) : Showing := fun notice _ => encoded width notice.named (.ok [])

theorem agrees_quiet (width : Nat) (summary : Bool) :
    Showing.Agrees (progress width summary) (quiet width) := by
  intro notice report
  obtain ⟨lines, hlines⟩ := noticeLines_ok width summary notice report
  rw [progress, quiet, hlines]
  cases hname : canPrint width notice.named with
  | true =>
    rw [encoded_of_canPrint hname, encoded_of_canPrint hname]
    rfl
  | false => rw [encoded_unencodable hname rfl, encoded_unencodable hname rfl]

/-- Whether a run ends in a report can be seen without what is printed. -/
theorem World.report_of_quiet {w : World} {width : Nat} {s : Settings} {report : Report}
    (h : (w.rehearse (.printed (quiet width)) s).1.toOption = some report) (summary : Bool) :
    (w.rehearse (.printed (progress width summary)) s).1 = .ok report := by
  rw [World.rehearse_showing (agrees_quiet width summary) w s]
  exact Fallible.toOption_eq_some_iff.mp h

/-- **What a run shows.** If the name of its clipboard can be printed, the console does not end a
run. A run that then ends in a report prints its transcript, if the console is wide enough for it
and no line of it holds what may be an emoji code: a header; for each event that was attempted the
line that says so and, if and only if it is among the failures, the lines for the failure; and a
last line that says how the run ended. Of a text from outside, the name of the clipboard or the
message of a failure, the first line starts with what the console says about it, and only a line
feed in it starts another one. So a text without a line feed forges no line. If the name cannot be
printed, the run ends at its header, before it has shown or written anything. -/
theorem run_shows_transcript (w : World) (width : Nat) (s : Settings) :
    let ending := w.rehearse (.printed (progress width false)) s
    let name := w.clipboard.name
    (canPrint width name = true →
      (∀ error, ending.1 ≠ .error (.markup error)) ∧
        ∀ report, ending.1 = .ok report → 0 < width →
          (∀ line ∈ transcript s name report,
            extent line ≤ width ∧ Markup.hasEmojiCode line = false) →
            ending.2.printed = w.printed ++ transcript s name report ∧
              Headed (headerFront s.count s.delay) name.display (headerLines s name) ∧
              (∀ failure ∈ report.failures, ∃ index : Nat,
                failure.index = index ∧ 1 ≤ index ∧ index ≤ report.attempted ∧
                  eventLines report.failures index =
                    copyingLine index :: complaintLines (some failure) ∧
                  Headed (failureFront index) failure.error (complaintLines (some failure))) ∧
              (∀ index : Nat, (∀ failure ∈ report.failures, failure.index ≠ index) →
                eventLines report.failures index = [copyingLine index]) ∧
              ('\n' ∉ name.display.toList →
                (∀ failure ∈ report.failures, '\n' ∉ failure.error.toList) →
                  (transcript s name report).filter isMark =
                    (List.range' 1 report.attempted).map (fun index : Nat => copyingLine index) ++
                      if report.cancelled then [] else [doneLine])) ∧
      (canPrint width name = false → ∀ time, World.later w.time w.step = .ok time →
        ending.1 = .error (.markup .unencodable) ∧ ending.2.printed = w.printed ∧
          ending.2.calls = w.calls ++ [.now w.time]) := by
  intro ending name
  refine ⟨fun hname => ⟨w.rehearse_ne_markup (shows_progress hname false) s, ?shown⟩,
    fun hname time htime => ?unencodable⟩
  case shown =>
    intro report hreport hwidth hfits
    obtain ⟨hsame, -⟩ := w.rehearse_printed (progress width false) hreport
    obtain ⟨hincreasing, hindices⟩ :=
      (w.surroundings (.printed (progress width false))).failures_report s
    rw [← hsame] at hincreasing hindices
    refine ⟨World.printed_transcript hname hreport hwidth fun line hline => (hfits line hline).1,
      headed_header _ _ _, ?failed, fun index => eventLines_of_forall, filter_transcript⟩
    case failed =>
      intro failure hfailure
      obtain ⟨index, hindex, hlow, hhigh⟩ := hindices failure hfailure
      refine ⟨index, hindex, hlow, hhigh, eventLines_of_mem hincreasing hfailure hindex, ?_⟩
      rw [← hindex]
      exact headed_failure failure.index failure.error
  case unencodable =>
    have hending := w.rehearse_unprintable false hname htime s
    change ending = _ at hending
    rw [hending]
    exact ⟨rfl, rfl, rfl⟩

/-- A tool that fails once, with markup and a backslash in what it says. -/
theorem markup_shows_as_it_is :
    let tool : Tool := ⟨.ofString "xclip", [.ofString "xclip"], .finite false 0⟩
    let diagnostics := Utf8.encode "[/] no display\\".toList
    let w : World :=
      ⟨default, 0, .tool tool, [], [.failed (.exited 1 diagnostics)], none, false, [], [], []⟩
    let s : Settings := { Settings.defaults with count := 2, delay := .finite false 0 }
    (∃ report, (w.rehearse (.printed (progress 200 false)) s).1 = .ok report) ∧
      (w.rehearse (.printed (progress 200 false)) s).2.printed = [
      "Testing event listener - will copy 2 items with 0 second delay (backend: xclip)",
      "Copying test item 1",
      "⚠️  Item 1 not copied: xclip exited with status 1: [/] no display\\",
      "Copying test item 2",
      "Done"].map String.toList := by
  intro tool diagnostics w s
  let failure : Failure :=
    ⟨1, "Test Event 1 - 00:00:00", "xclip exited with status 1: [/] no display\\"⟩
  let report : Report :=
    ⟨2, 2, 1, [failure], [(.text, 1)], false, some default, some default⟩
  have hquiet : (w.rehearse (.printed (quiet 200)) s).1.toOption = some report := by
    decide +kernel
  have hreport := World.report_of_quiet hquiet false
  have hfits : ∀ line ∈ transcript s w.clipboard.name report,
      extent line ≤ 200 ∧ Markup.hasEmojiCode line = false := by
    decide +kernel
  have htranscript : transcript s w.clipboard.name report = [
      "Testing event listener - will copy 2 items with 0 second delay (backend: xclip)",
      "Copying test item 1",
      "⚠️  Item 1 not copied: xclip exited with status 1: [/] no display\\",
      "Copying test item 2",
      "Done"].map String.toList := by
    decide +kernel
  obtain ⟨hshown, -⟩ := run_shows_transcript w 200 s
  obtain ⟨hprinted, -⟩ := (hshown (by decide)).2 report hreport (by decide) hfits
  have hfresh : w.printed = [] := rfl
  rw [hfresh, List.nil_append, htranscript] at hprinted
  exact ⟨⟨report, hreport⟩, hprinted⟩

/-- A tool that fails with a line feed in what it says: the notice of the failure goes on in a line
of its own, which says that the run is done. -/
theorem line_feed_forges_done :
    let tool : Tool := ⟨.ofString "xclip", [.ofString "xclip"], .finite false 0⟩
    let diagnostics := Utf8.encode "x\nDone".toList
    let w : World :=
      ⟨default, 0, .tool tool, [], [.failed (.exited 1 diagnostics)], none, false, [], [], []⟩
    let s : Settings := { Settings.defaults with count := 1, delay := .finite false 0 }
    ∃ report, (w.rehearse (.printed (progress 200 false)) s).1 = .ok report ∧
      report.attempted = 1 ∧ report.failures.map Failure.index = [1] ∧ report.cancelled = false ∧
      (w.rehearse (.printed (progress 200 false)) s).2.printed = [
        "Testing event listener - will copy 1 items with 0 second delay (backend: xclip)",
        "Copying test item 1",
        "⚠️  Item 1 not copied: xclip exited with status 1: x",
        "Done",
        "Done"].map String.toList := by
  intro tool diagnostics w s
  let failure : Failure :=
    ⟨1, "Test Event 1 - 00:00:00", "xclip exited with status 1: x\nDone"⟩
  let report : Report := ⟨1, 1, 0, [failure], [], false, some default, some default⟩
  have hquiet : (w.rehearse (.printed (quiet 200)) s).1.toOption = some report := by
    decide +kernel
  have hreport := World.report_of_quiet hquiet false
  have hfits : ∀ line ∈ transcript s w.clipboard.name report, extent line ≤ 200 := by
    decide +kernel
  have htranscript : transcript s w.clipboard.name report = [
      "Testing event listener - will copy 1 items with 0 second delay (backend: xclip)",
      "Copying test item 1",
      "⚠️  Item 1 not copied: xclip exited with status 1: x",
      "Done",
      "Done"].map String.toList := by
    decide +kernel
  have hprinted := World.printed_transcript (by decide) hreport (by decide) hfits
  have hfresh : w.printed = [] := rfl
  rw [hfresh, List.nil_append, htranscript] at hprinted
  exact ⟨report, hreport, rfl, rfl, rfl, hprinted⟩

end ClipCadence
