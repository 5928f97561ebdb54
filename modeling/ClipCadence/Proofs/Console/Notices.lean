import ClipCadence.Proofs.Console.Fitting
import ClipCadence.Proofs.Console.Templates

/-!
The lines of the notices of a run. Two notices hold a text from outside: the header the name of the
clipboard, and the notice of a failure the message of the write. The text is escaped, so what stands
before it is shown in any case and nothing in it changes the notice, with one exception: a line feed
ends a line of the console. On a console that is wide enough a notice has one line and another one
for each line feed in its text from outside.

Main statements: `progress_fits`, the lines of a notice, and `headed_wholeLines`, how they begin and
how many there are.
-/

namespace ClipCadence.Console

open Markup Messages Number

/-! ### What is shown of a notice -/

def copyingLine (index : Int) : Line := copyingTemplate index

def doneLine : Line := "Done".toList

def interruptedLine (attempted requested : Int) : Line :=
  "Interrupted after ".toList ++ number attempted ++ " of ".toList ++ number requested ++
    " items".toList

/-- What a header starts with. -/
def headerFront (count : Int) (delay : Binary64) : Line :=
  "Testing event listener - will copy ".toList ++ number count ++ " items with ".toList ++
    delay.brief.toList ++ " second delay (backend: ".toList

/-- What the notice of a failure starts with. -/
def failureFront (index : Int) : Line :=
  "⚠️  Item ".toList ++ number index ++ " not copied: ".toList

def headerShown (count : Int) (delay : Binary64) (backend : List Char) : List Char :=
  headerFront count delay ++ (outside backend ++ (slashes (endingSlashes backend) ++ [')']))

def failureShown (index : Int) (error : List Char) : List Char :=
  failureFront index ++ (outside error ++ closingShown (endingSlashes error))

end Console

open Console

/-- What is shown of a notice. -/
def Notice.shown (report : Report) : Notice → List Char
  | .started count delay clipboard => headerShown count delay clipboard.display.toList
  | .copying index => copyingLine index
  | .failed event error => failureShown event.index error.message.toList
  | .finished => doneLine
  | .interrupted => interruptedLine report.attempted report.requested

namespace Console

open Markup Messages Number

/-! ### Templates -/

theorem literal_headerFront (count : Int) (delay : Binary64) :
    Literal (headerFront count delay) := by
  have hstart : Literal "Testing event listener - will copy ".toList := by decide
  have hitems : Literal " items with ".toList := by decide
  have hdelay : Literal " second delay (backend: ".toList := by decide
  exact (((hstart.append (literal_number count)).append hitems).append
    (literal_brief delay)).append hdelay

theorem literal_failureFront (index : Int) : Literal (failureFront index) :=
  (Message.failure index).slot.literal_lead

theorem literal_copyingLine (index : Int) : Literal (copyingLine index) := by
  have hstart : Literal "Copying test item ".toList := by decide
  exact hstart.append (literal_number index)

theorem literal_interruptedLine (attempted requested : Int) :
    Literal (interruptedLine attempted requested) := by
  have hstart : Literal "Interrupted after ".toList := by decide
  have hof : Literal " of ".toList := by decide
  have hitems : Literal " items".toList := by decide
  exact (((hstart.append (literal_number attempted)).append hof).append
    (literal_number requested)).append hitems

theorem literal_doneLine : Literal doneLine := by decide

theorem shows_header (count : Int) (delay : Binary64) (backend : List Char) :
    Shows 0 (headerTemplate count delay backend) (headerShown count delay backend) := by
  have hjoined : " second delay (backend: ".toList =
      " second delay ".toList ++ "(backend: ".toList := by decide
  have hclose (before : Nat) : sanitize (shownFrom before [')']) = slashes before ++ [')'] := by
    rw [shownFrom, if_neg (by decide), if_neg (by decide), sanitize_append, sanitize_slashes]
    rfl
  have hshown : (Message.header count delay).slot.shown backend =
      headerShown count delay backend := by
    rw [Slot.shown_eq]
    unfold Message.slot Slot.ending headerShown headerFront
    dsimp only
    rw [hjoined, hclose]
    simp [slashesAtEnd, closingShown, slashes]
  rw [← hshown]
  exact Message.shows (.header count delay) backend

theorem shows_copying (index : Int) : Shows 0 (copyingTemplate index) (copyingLine index) := by
  have hshows : Shows 0 (copyingLine index ++ []) (copyingLine index ++ []) :=
    (literal_copyingLine index).shows (shows_nil 0)
  rwa [List.append_nil] at hshows

theorem shows_failure (index : Int) (error : List Char) :
    Shows 0 (failureTemplate index error) (failureShown index error) := by
  have hshown : (Message.failure index).slot.shown error = failureShown index error := by
    rw [Slot.shown_eq]
    rfl
  rw [← hshown]
  exact Message.shows (.failure index) error

theorem shows_done : Shows 0 doneTemplate doneLine := by
  have hsplit : doneTemplate =
      bracketed "bold green".toList ++ ("Done".toList ++ bracketed ['/']) := by decide
  rw [hsplit]
  exact (literal_doneLine.shows (shows_closing 0)).tag ⟨by decide, by decide⟩

theorem shows_interrupted (attempted requested : Int) :
    Shows 0 (interruptedTemplate attempted requested) (interruptedLine attempted requested) := by
  have hopening : "[bold yellow]Interrupted after ".toList =
      bracketed "bold yellow".toList ++ "Interrupted after ".toList := by decide
  have hclosing : " items[/]".toList = " items".toList ++ bracketed ['/'] := by decide
  have hshows : Shows 0 (bracketed "bold yellow".toList ++
      (interruptedLine attempted requested ++ bracketed ['/']))
      (interruptedLine attempted requested ++ closingShown 0) :=
    ((literal_interruptedLine attempted requested).shows (shows_closing 0)).tag
      ⟨by decide, by decide⟩
  have hnone : closingShown 0 = [] := rfl
  rw [hnone, List.append_nil] at hshows
  have htemplate : interruptedTemplate attempted requested = bracketed "bold yellow".toList ++
      (interruptedLine attempted requested ++ bracketed ['/']) := by
    unfold interruptedTemplate interruptedLine
    rw [hopening, hclosing]
    simp only [List.append_assoc]
  rwa [htemplate]

/-! ### Notices -/

/-- A template that can be rendered is printed as it is shown, if that fits. -/
theorem printed_fits {template shown : List Char} {width : Nat} (h : Settled 0 template)
    (hshows : Shows 0 template shown) (hwidth : 0 < width) (hfits : Fits width shown) :
    printed width template = .ok (wholeLines shown) := by
  obtain ⟨text, hrender, hflawless⟩ := render_settled h
  obtain rfl := render_chars hshows hrender
  rw [printed, Fallible.bind_ok hrender]
  exact printedText_fits hflawless hwidth hfits

/-- **The lines of a notice.** A notice that fits is printed as it is shown, line by line, if the
name in it can be encoded. -/
theorem progress_fits {width : Nat} {notice : Notice} {report : Report} (hwidth : 0 < width)
    (hname : canPrint width notice.named = true) (hfits : Fits width (notice.shown report)) :
    progress width false notice report = .ok (wholeLines (notice.shown report)) := by
  rw [progress, encoded_of_canPrint hname]
  have hclosing {template shown : List Char} (h : Settled 0 template)
      (hshows : Shows 0 template shown) (hfits : Fits width shown) :
      closing width false template report = .ok (wholeLines shown) := by
    rw [closing, Fallible.bind_ok (printed_fits h hshows hwidth hfits)]
    exact congrArg Except.ok (List.append_nil _)
  cases notice with
  | started count delay clipboard =>
    exact printed_fits (Message.settled (.header _ _) _) (shows_header _ _ _) hwidth hfits
  | copying index => exact printed_fits (settled_copying _) (shows_copying _) hwidth hfits
  | failed event error =>
    exact printed_fits (Message.settled (.failure _) _) (shows_failure _ _) hwidth hfits
  | finished => exact hclosing settled_done shows_done hfits
  | interrupted => exact hclosing (settled_interrupted _ _) (shows_interrupted _ _) hfits

/-! ### Line feeds -/

theorem count_outside (text : List Char) : (outside text).count '\n' = text.count '\n' := by
  rw [outside, sanitize, List.count_filter (by decide), count_shownFrom (by decide)]

theorem count_closingShown (before : Nat) : (closingShown before).count '\n' = 0 := by
  rw [closingShown, List.count_append, count_slashes (by decide)]
  split <;> decide

theorem Markup.Literal.wholeLines {text : List Char} (h : Literal text) :
    Console.wholeLines text = [text] := by
  rw [wholeLines_of_notMem h.lineFeed, withTabs_of_notMem h.tab]

/-- Lines of a notice that holds a text from outside: the first one starts with what stands before
the text, and each line feed in the text starts one more. -/
def Headed (front : Line) (text : String) (lines : List Line) : Prop :=
  ∃ first later, lines = first :: later ∧ front <+: first ∧
    later.length = text.toList.count '\n'

theorem headed_wholeLines {front rest : List Char} {text : String} (h : Literal front)
    (hrest : rest.count '\n' = text.toList.count '\n') :
    Headed front text (wholeLines (front ++ rest)) := by
  obtain ⟨first, later, hlines, hfirst⟩ := wholeLines_append h.lineFeed h.tab rest
  refine ⟨first, later, hlines, hfirst, ?_⟩
  have hlength := length_wholeLines (front ++ rest)
  rw [hlines, List.length_cons, List.count_append, List.count_eq_zero.mpr h.lineFeed, hrest]
    at hlength
  omega

theorem headed_header (count : Int) (delay : Binary64) (backend : String) :
    Headed (headerFront count delay) backend
      (wholeLines (headerShown count delay backend.toList)) := by
  refine headed_wholeLines (literal_headerFront count delay) ?_
  have hclosing : [')'].count '\n' = 0 := by decide
  rw [List.count_append, List.count_append, count_outside, count_slashes (by decide), hclosing,
    Nat.add_zero]

theorem headed_failure (index : Int) (error : String) :
    Headed (failureFront index) error (wholeLines (failureShown index error.toList)) := by
  refine headed_wholeLines (literal_failureFront index) ?_
  rw [List.count_append, count_outside, count_closingShown, Nat.add_zero]

/-- Without a line feed in its text a notice is one line. -/
theorem Headed.eq_singleton {front : Line} {text : String} {lines : List Line}
    (h : Headed front text lines) (htext : '\n' ∉ text.toList) :
    ∃ line, lines = [line] ∧ front <+: line := by
  obtain ⟨first, later, rfl, hfirst, hlength⟩ := h
  rw [List.count_eq_zero.mpr htext] at hlength
  exact ⟨first, by rw [List.length_eq_zero_iff.mp hlength], hfirst⟩

end ClipCadence.Console
