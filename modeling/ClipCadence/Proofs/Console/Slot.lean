import ClipCadence.Proofs.Console.Escaped

/-!
Messages with a text from outside. Each of them is a template with one slot: plain text, a tag that
opens a style, plain text, the escaped text from outside, plain text, and a tag that closes the
style. Whatever the text from outside is, the tags of the template are the only ones in it, and its
style reaches from the opening tag to the end; backslashes at the end of the text from outside may
make plain text of the closing tag, which has nothing after it.

Main statements: `Slot.marks_template` and `Slot.render_template`.
-/

namespace ClipCadence.Console

open Markup

/-- What is shown of a text from outside, up to the backslashes at its end. -/
def outside (text : List Char) : List Char := sanitize (shownFrom 0 text)

/-- What is shown of the end of a style after some backslashes. -/
def closingShown (before : Nat) : List Char :=
  slashes (before / 2) ++ if before % 2 = 0 then [] else "[/]".toList

namespace Markup

/-! ### Tags that take effect -/

def Token.mark? : Token → Option (Nat × List Char)
  | .text _ => none
  | .tag position content => some (position, content)

/-- The tags of a template that take effect, each with its position. -/
def marks (template : List Char) : List (Nat × List Char) :=
  (tokens template).filterMap Token.mark?

theorem filterMap_mark?_texts (texts : List (List Char)) (found : List Token) :
    (texts.map Token.text ++ found).filterMap Token.mark? = found.filterMap Token.mark? := by
  induction texts with
  | nil => rfl
  | cons chars texts ih => exact ih

theorem renderTokens_texts (length : Nat) (opened : List Opened) (texts : List (List Char))
    (found : List Token) :
    renderTokens length opened (texts.map .text ++ found) =
      (renderTokens (length + (sanitize texts.flatten).length) opened found).map fun text =>
        { text with chars := sanitize texts.flatten ++ text.chars } := by
  induction texts generalizing length with
  | nil =>
    show renderTokens length opened found = (renderTokens length opened found).map _
    cases renderTokens length opened found <;> rfl
  | cons chars texts ih =>
    rw [List.map_cons, List.cons_append, renderTokens, ih, List.flatten_cons, sanitize_append,
      List.length_append, Nat.add_assoc]
    cases renderTokens (length + ((sanitize chars).length + (sanitize texts.flatten).length)) opened
      found with
    | ok text =>
      have hchars := List.append_assoc (sanitize chars) (sanitize texts.flatten) text.chars
      exact congrArg (fun chars => Except.ok (Styled.mk chars text.styles)) hchars.symm
    | error error => rfl

/-! ### The end of a style -/

theorem isTag_closing : IsTag ['/'] := ⟨by decide, by decide⟩

theorem tokensFrom_closing (position before : Nat) :
    tokensFrom position before 0 (bracketed ['/']) =
      if before % 2 = 0 then [.text (slashes (before / 2)), .tag position ['/'], .text []]
      else [.text (closingShown before), .text []] := by
  rw [← List.append_nil (bracketed ['/']), tokensFrom_tag isTag_closing]
  split
  · rfl
  · next hodd =>
    rw [closingShown, if_neg hodd]
    rfl

theorem safe_closing : Safe 1 (bracketed ['/']) := by
  rw [← List.append_nil (bracketed ['/'])]
  exact Settled.closing fun opened => (safe_nil opened).settled

theorem sanitize_closingShown (before : Nat) :
    sanitize (closingShown before) = closingShown before := by
  rw [closingShown, sanitize_append, sanitize_slashes]
  split <;> rfl

theorem shows_closing (before : Nat) : Shows before (bracketed ['/']) (closingShown before) := by
  rw [← List.append_nil (bracketed ['/']), closingShown]
  split
  · next heven => exact Shows.tag_of_even isTag_closing heven (shows_nil 0)
  · next hodd => exact Shows.literal isTag_closing (by omega) (shows_nil 0)

/-- A style that is open at the end of a template holds up to there, whether it is closed or the
closing tag is plain text. -/
theorem renderTokens_end {last : Opened} (h : last.parameters = none)
    (length position before : Nat) :
    renderTokens length [last] (tokensFrom position before 0 (bracketed ['/'])) =
      .ok ⟨closingShown before, [last.stretch (length + (closingShown before).length)]⟩ := by
  rw [tokensFrom_closing]
  split
  · next heven =>
    have hshown : closingShown before = slashes (before / 2) := by
      rw [closingShown, if_pos heven, List.append_nil]
    rw [renderTokens, sanitize_slashes, hshown, renderTokens_closing h]
    simp [renderTokens, sanitize, Except.map, bind, Except.bind, pure, Except.pure]
  · next hodd =>
    rw [renderTokens, sanitize_closingShown]
    simp [renderTokens, sanitize, bind, Except.bind, pure, Except.pure]

end Markup

/-! ### Slots -/

/-- A template with a place for a text from outside. -/
structure Slot where
  /-- What stands before the style. -/
  front : List Char
  style : List Char
  /-- What stands in the style before the text from outside. -/
  lead : List Char
  /-- What stands in the style after it. -/
  close : List Char
  literal_front : Literal front
  isTag_style : IsTag style
  opens_style : Opens style
  literal_lead : Literal lead
  literal_close : Literal close
  inside_close : close.all (!isBracket ·) = true

namespace Slot

variable (slot : Slot) (text : List Char)

def template : List Char :=
  slot.front ++ (bracketed slot.style ++
    (slot.lead ++ (escape text ++ (slot.close ++ bracketed ['/']))))

/-- The backslashes before the closing tag. -/
def ending : Nat := slashesAtEnd (endingSlashes text) slot.close

/-- What is read between the two tags. -/
def content : List Char :=
  slot.lead ++ (shownFrom 0 text ++ shownFrom (endingSlashes text) slot.close)

/-- What is shown of the template. -/
def shown : List Char :=
  slot.front ++ (sanitize (slot.content text) ++ closingShown (slot.ending text))

theorem inert_content :
    Inert 0 (slot.lead ++ (escape text ++ slot.close)) (bracketed ['/']) (slot.ending text)
      (slot.content text) := by
  have hcloses : closesFirst (slot.close ++ bracketed ['/']) = false := by
    rw [closesFirst_append slot.inside_close]
    rfl
  exact (slot.literal_lead.inert _).append <| (inert_escape hcloses text).append <|
    inert_plain slot.literal_close.bracket _ _

theorem template_eq :
    slot.template text = slot.front ++ (bracketed slot.style ++
      ((slot.lead ++ (escape text ++ slot.close)) ++ bracketed ['/'])) := by
  simp only [template, List.append_assoc]

theorem settled_template : Settled 0 (slot.template text) := by
  have hcontent : Settled 1 ((slot.lead ++ (escape text ++ slot.close)) ++ bracketed ['/']) :=
    (slot.inert_content text).settled fun position => safe_closing position _
  rw [template_eq]
  exact (slot.literal_front.inert _).settled (hcontent.opening slot.isTag_style slot.opens_style)

theorem shows_template : Shows 0 (slot.template text) (slot.shown text) := by
  rw [template_eq]
  refine slot.literal_front.shows (Shows.tag slot.isTag_style ?_)
  exact (slot.inert_content text).shows (shows_closing _)

/-- The tokens of the template: text, the opening tag, text, and what the closing tag is read as. -/
theorem tokens_template :
    ∃ first second : List (List Char),
      tokens (slot.template text) =
        first.map .text ++ .tag slot.front.length slot.style :: (second.map .text ++
          tokensFrom ((slot.template text).length - 3) (slot.ending text) 0 (bracketed ['/'])) ∧
      first.flatten = slot.front ∧ second.flatten = slot.content text := by
  rw [template_eq]
  obtain ⟨first, hfirst, hfront⟩ := slot.literal_front.inert (bracketed slot.style ++
    ((slot.lead ++ (escape text ++ slot.close)) ++ bracketed ['/'])) 0
  obtain ⟨second, hsecond, hcontent⟩ := slot.inert_content text
    (0 + slot.front.length + 1 + (slot.style.length + 1))
  have hlength : 0 + slot.front.length + 1 + (slot.style.length + 1) +
      (slot.lead ++ (escape text ++ slot.close)).length =
        (slot.front ++ (bracketed slot.style ++
          ((slot.lead ++ (escape text ++ slot.close)) ++ bracketed ['/']))).length - 3 := by
    simp [bracketed]
    omega
  refine ⟨first ++ [[]], second, ?_, by simpa using hfront, hcontent⟩
  rw [tokens, hfirst, tokensFrom_tag slot.isTag_style, if_pos rfl, hsecond, hlength, Nat.zero_add,
    List.map_append, List.append_assoc (first.map Token.text)]
  rfl

/-- **Tags that take effect.** The tags of the template are the only ones, whatever the text from
outside is. The closing tag is none after an odd number of backslashes. -/
theorem marks_template :
    marks (slot.template text) = (slot.front.length, slot.style) ::
      if slot.ending text % 2 = 0 then [((slot.template text).length - 3, ['/'])] else [] := by
  obtain ⟨first, second, htokens, -, -⟩ := slot.tokens_template text
  rw [marks, htokens, filterMap_mark?_texts, List.filterMap_cons]
  dsimp only [Token.mark?]
  rw [filterMap_mark?_texts, tokensFrom_closing]
  split <;> rfl

/-- **The style.** The template is always rendered, with the one style that it opens. -/
theorem render_template :
    render (slot.template text) =
      .ok ⟨slot.shown text, [⟨slot.front.length, (slot.shown text).length, false⟩]⟩ := by
  obtain ⟨first, second, htokens, hfront, hcontent⟩ := slot.tokens_template text
  obtain ⟨name, hname⟩ := renderTokens_opening slot.opens_style slot.front.length
    slot.front.length [] (second.map .text ++
      tokensFrom ((slot.template text).length - 3) (slot.ending text) 0 (bracketed ['/']))
  rw [render, htokens, renderTokens_texts, hfront, slot.literal_front.sanitize, Nat.zero_add, hname,
    renderTokens_texts, hcontent, renderTokens_end rfl]
  simp [Except.map, shown, Opened.stretch, Nat.add_assoc]

/-- What is shown of the template, part by part. -/
theorem shown_eq :
    slot.shown text = slot.front ++ (slot.lead ++ (outside text ++
      (sanitize (shownFrom (endingSlashes text) slot.close) ++
        closingShown (slot.ending text)))) := by
  simp only [shown, content, outside, sanitize_append, slot.literal_lead.sanitize,
    List.append_assoc]

/-! ### Tags in the text from outside -/

/-- What is shown of a text from outside up to a tag in it. -/
def shownBefore (before : List Char) : List Char :=
  slot.front ++ (slot.lead ++ (outside before ++ slashes (slashesAtEnd 0 before)))

/-- A tag in the text from outside is shown as it is, where it stands. -/
theorem shown_tag {content : List Char} (htag : IsTag content) (before after : List Char) :
    slot.shownBefore before ++ sanitize (bracketed content) <+:
      slot.shown (before ++ bracketed content ++ after) := by
  have hsplit : shownFrom 0 (before ++ bracketed content ++ after) =
      shownFrom 0 before ++ (slashes (slashesAtEnd 0 before) ++
        (bracketed content ++ shownFrom 0 after)) := by
    rw [← shownFrom_tag htag]
    simpa [bracketed] using shownFrom_append_bracket 0 before (content ++ ']' :: after)
  rw [shown_eq, shownBefore, outside, outside, hsplit]
  simp only [sanitize_append, sanitize_slashes, List.append_assoc, List.prefix_append_right_inj]
  exact List.prefix_append _ _

end Slot

end ClipCadence.Console
