import ClipCadence.Proofs.Console.Notices

/-!
The tags of the messages of a run. A text from outside that stands in a message has been escaped, so
it adds no tag to the message and takes no style away: what looks like a tag in it is shown where it
stands. Characters that a console never prints are left out there as everywhere.

Main statement: `tags_are_of_message`.
-/

namespace ClipCadence.Console

open Markup Messages Number

/-- For each message and every text from outside: the message is printed on every console. The
tags that take effect are the opening and the closing tag of the message itself, the latter unless
the backslashes before it make it plain text. The style of the message reaches from its opening tag
to the end, and is the only one. Each tag in the text from outside is shown as it is after what is
shown of the text before it, without the characters that are never printed. What is shown makes up
the lines, if they fit. -/
theorem tags_are_of_message (message : Message) (text : List Char) :
    (∀ width, ∃ lines, printed width (message.template text) = .ok lines) ∧
    marks (message.template text) = (message.slot.front.length, message.slot.style) ::
      (if message.slot.ending text % 2 = 0 then [((message.template text).length - 3, ['/'])]
        else []) ∧
    ∃ shown,
      render (message.template text) =
        .ok ⟨shown, [⟨message.slot.front.length, shown.length, false⟩]⟩ ∧
      (∀ before content after, text = before ++ bracketed content ++ after → IsTag content →
        message.slot.shownBefore before ++ sanitize (bracketed content) <+: shown) ∧
      ∀ width, 0 < width → Fits width shown →
        printed width (message.template text) = .ok (wholeLines shown) := by
  have hsettled := message.settled text
  refine ⟨printed_ok hsettled, ?marks, message.slot.shown text, ?render, ?tags, ?lines⟩
  case marks =>
    rw [message.template_eq]
    exact message.slot.marks_template text
  case render =>
    rw [message.template_eq]
    exact message.slot.render_template text
  case tags =>
    rintro before content after rfl htag
    exact message.slot.shown_tag htag before after
  case lines =>
    exact fun width hwidth hfits => printed_fits hsettled (message.shows text) hwidth hfits

/-- A bell in a tag is not printed, so the tag is not shown as it is. -/
theorem bell_in_tag_lost :
    IsTag ['a', '\x07'] ∧
      printed 80 (errorTemplate (bracketed ['a', '\x07'])) = .ok ["❌ [a]".toList] ∧
      ¬ bracketed ['a', '\x07'] <:+: "❌ [a]".toList := by
  have hlines : wholeLines (Message.error.slot.shown (bracketed ['a', '\x07'])) =
      ["❌ [a]".toList] := by decide +kernel
  have hfits : Fits 80 (Message.error.slot.shown (bracketed ['a', '\x07'])) := by
    unfold Fits
    rw [hlines]
    decide +kernel
  have hprinted := printed_fits (Message.error.settled (bracketed ['a', '\x07']))
    (Message.error.shows _) (by decide) hfits
  rw [hlines] at hprinted
  exact ⟨⟨by decide, by decide⟩, hprinted, by decide⟩

end ClipCadence.Console
