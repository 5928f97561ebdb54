import ClipCadence.Console.Progress
import ClipCadence.Proofs.Console.Layout
import ClipCadence.Proofs.Console.Slot
import ClipCadence.Proofs.Number.Characters

/-!
The messages of a run can be printed, whatever stands in them. The texts that come from outside are
the name of a clipboard, the message of a failed write and the message of an error; they are
escaped. Numbers are put into a message as they are, since no bracket stands in one.

Main statements: `progress_ok` and `errorTemplate_ok`. A name that cannot be encoded is the one
thing that keeps a notice from being printed: `progress_unencodable`.
-/

namespace ClipCadence

/-! ### Numbers -/

namespace Console

open Markup Number

theorem literal_number (n : Int) : Literal (Messages.number n) :=
  literal_of_forall (numeric_write n) (by decide)

theorem literal_brief (x : Binary64) : Literal x.brief.toList := by
  let words := Layout.briefLayout.infinity.toList ++ Layout.briefLayout.nan.toList
  have hwritten : ∀ c ∈ x.brief.toList, (isNumeric c || words.contains c) = true := by
    intro c hc
    rw [Binary64.brief, String.toList_ofList] at hc
    rw [Bool.or_eq_true, List.contains_iff_mem, List.mem_append]
    exact Layout.mem_double _ hc
  exact literal_of_forall hwritten (by decide)

end Console

/-! ### Messages with a text from outside -/

namespace Console

open Markup Messages Number

inductive Message where
  | error
  | failure (index : Int)
  | header (count : Int) (delay : Binary64)

namespace Message

def template : Message → List Char → List Char
  | .error => errorTemplate
  | .failure index => failureTemplate index
  | .header count delay => headerTemplate count delay

def slot : Message → Slot
  | .error =>
    ⟨[], "bold red".toList, "❌ ".toList, [], by decide, ⟨by decide, by decide⟩, by decide,
      by decide, by decide, rfl⟩
  | .failure index =>
    have hstart : Literal "⚠️  Item ".toList := by decide
    have hend : Literal " not copied: ".toList := by decide
    ⟨[], "yellow".toList, "⚠️  Item ".toList ++ number index ++ " not copied: ".toList, [],
      by decide, ⟨by decide, by decide⟩, by decide,
      (hstart.append (literal_number index)).append hend, by decide, rfl⟩
  | .header count delay =>
    have hstart : Literal "Testing event listener - will copy ".toList := by decide
    have hitems : Literal " items with ".toList := by decide
    have hdelay : Literal " second delay ".toList := by decide
    ⟨"Testing event listener - will copy ".toList ++ number count ++ " items with ".toList ++
        delay.brief.toList ++ " second delay ".toList,
      "dim".toList, "(backend: ".toList, [')'],
      (((hstart.append (literal_number count)).append hitems).append (literal_brief delay)).append
        hdelay,
      ⟨by decide, by decide⟩, by decide, by decide, by decide, rfl⟩

variable (message : Message) (text : List Char)

/-- The messages are templates with one slot. -/
theorem template_eq : message.template text = message.slot.template text := by
  have hclosing : "[/]".toList = bracketed ['/'] := by decide
  unfold template slot Slot.template
  cases message with
  | error =>
    have hopening : "[bold red]❌ ".toList = bracketed "bold red".toList ++ "❌ ".toList := by decide
    unfold errorTemplate
    dsimp only
    simp only [hopening, hclosing, List.append_assoc, List.nil_append]
  | failure index =>
    have hopening : "[yellow]⚠️  Item ".toList =
        bracketed "yellow".toList ++ "⚠️  Item ".toList := by decide
    unfold failureTemplate
    dsimp only
    simp only [hopening, hclosing, List.append_assoc, List.nil_append]
  | header count delay =>
    have hopening : " second delay [dim](backend: ".toList =
        " second delay ".toList ++ (bracketed "dim".toList ++ "(backend: ".toList) := by decide
    have hbracket : ")[/]".toList = [')'] ++ bracketed ['/'] := by decide
    unfold headerTemplate
    dsimp only
    simp only [hopening, hbracket, List.append_assoc]

theorem settled : Settled 0 (message.template text) := by
  rw [template_eq]
  exact message.slot.settled_template text

theorem shows : Shows 0 (message.template text) (message.slot.shown text) := by
  rw [template_eq]
  exact message.slot.shows_template text

end Message

/-! ### Templates -/

/-- A template that can be rendered is printed. -/
theorem printed_ok {template : List Char} (h : Settled 0 template) (width : Nat) :
    ∃ lines, printed width template = .ok lines := by
  obtain ⟨text, hrender, hshown⟩ := render_settled h
  obtain ⟨lines, hlines⟩ := printedText_ok hshown width
  refine ⟨lines, ?_⟩
  rw [printed, hrender]
  exact hlines

theorem settled_copying (index : Int) : Settled 0 (copyingTemplate index) := by
  have hnumber : Safe 0 (number index ++ []) :=
    (safe_nil 0).append (literal_number index).bracket
  rw [List.append_nil] at hnumber
  exact (hnumber.append (by decide)).settled

theorem settled_done : Settled 0 doneTemplate := by
  have hsplit : doneTemplate =
      bracketed "bold green".toList ++ ("Done".toList ++ bracketed ['/']) := by decide
  rw [hsplit]
  refine Settled.opening ⟨by decide, by decide⟩ (by decide) (Safe.settled ?_)
  exact safe_closing.append (by decide)

theorem settled_interrupted (attempted requested : Int) :
    Settled 0 (interruptedTemplate attempted requested) := by
  have hopening : "[bold yellow]Interrupted after ".toList =
      bracketed "bold yellow".toList ++ "Interrupted after ".toList := by decide
  have hclosing : " items[/]".toList = " items".toList ++ bracketed ['/'] := by decide
  unfold interruptedTemplate
  rw [hopening, hclosing]
  simp only [List.append_assoc]
  refine Settled.opening ⟨by decide, by decide⟩ (by decide) (Safe.settled ?_)
  refine Safe.append (by decide) (Safe.append (literal_number attempted).bracket ?_)
  refine Safe.append (by decide) (Safe.append (literal_number requested).bracket ?_)
  exact safe_closing.append (by decide)

theorem noticeLines_ok (width : Nat) (summary : Bool) (notice : Notice) (report : Report) :
    ∃ lines, noticeLines width summary notice report = .ok lines := by
  have hclosing {template : List Char} (h : Settled 0 template) :
      ∃ lines, closing width summary template report = .ok lines := by
    obtain ⟨lines, hlines⟩ := printed_ok h width
    exact ⟨_, by rw [closing, hlines]; rfl⟩
  cases notice with
  | started count delay clipboard => exact printed_ok (Message.settled (.header _ _) _) width
  | copying index => exact printed_ok (settled_copying _) width
  | failed event error => exact printed_ok (Message.settled (.failure _) _) width
  | finished => exact hclosing settled_done
  | interrupted => exact hclosing (settled_interrupted _ _)

theorem errorTemplate_ok (width : Nat) (message : List Char) :
    ∃ lines, printed width (errorTemplate message) = .ok lines :=
  printed_ok (Message.settled .error message) width

/-! ### Names that cannot be encoded -/

section Encoded

variable {width : Nat} {name : Text.RawText} {lines : Printed} {found : List Line}

theorem canPrint_nil (width : Nat) : canPrint width [] = true := Bool.or_true _

theorem encoded_of_canPrint (h : canPrint width name = true) (lines : Printed) :
    encoded width name lines = lines := by
  cases lines with
  | error error => rfl
  | ok found => simp [encoded, h, bind, Except.bind, pure, Except.pure]

theorem encoded_unencodable (h : canPrint width name = false) (hlines : lines = .ok found) :
    encoded width name lines = .error .unencodable := by
  simp [encoded, hlines, h, bind, Except.bind]

/-- A notice of a run is printed if the name in it can be. -/
theorem progress_ok (summary : Bool) {notice : Notice} (h : canPrint width notice.named = true)
    (report : Report) : ∃ lines, progress width summary notice report = .ok lines := by
  rw [progress, encoded_of_canPrint h]
  exact noticeLines_ok width summary notice report

theorem progress_unencodable (summary : Bool) (notice : Notice)
    (h : canPrint width notice.named = false) (report : Report) :
    progress width summary notice report = .error .unencodable := by
  obtain ⟨lines, hlines⟩ := noticeLines_ok width summary notice report
  exact encoded_unencodable h hlines

end Encoded

end Console

end ClipCadence
