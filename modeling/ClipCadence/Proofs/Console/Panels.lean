import ClipCadence.Proofs.Console.Fitting
import ClipCadence.Proofs.Console.Shown
import ClipCadence.Proofs.Console.Templates

/-!
Messages in panels. Whether a panel is printed depends on its message alone, since the titles hold
no tags; on a console that is too narrow for any content the message is not even rendered.

Main statements: `successPanel_ok` and `successPanel_fits`.
-/

namespace ClipCadence.Console

open Markup Messages Text

/-! ### Titles -/

theorem Panel.shown_shown {title : Styled} (h : title.isFlawed = false) (width : Nat) :
    (Panel.shown width title).isFlawed = false := by
  have hblank (n : Nat) : (Styled.mk (Row.blanks n) []).isFlawed = false := rfl
  let line : Styled :=
    { title with chars := title.chars.map fun c => if c = '\n' then ' ' else c }
  have hline : line.isFlawed = false := h
  have hleft := Styled.append_shown (hblank 1) (Styled.expandTabs_shown hline 8)
  exact Styled.truncate_shown (Styled.append_shown hleft (hblank 1)) _

/-- A title without tags can be shown. -/
theorem panelTitle_ok {title : List Char} (h : Settled 0 title) (width : Nat) :
    ∃ shown, panelTitle width title = .ok shown ∧ shown.any Styled.isFlawed = false := by
  obtain ⟨text, hrender, hshown⟩ := render_settled h
  unfold panelTitle
  split
  · exact ⟨none, rfl, rfl⟩
  · rw [Fallible.bind_ok hrender]
    split
    · exact ⟨none, rfl, rfl⟩
    · exact ⟨_, rfl, Panel.shown_shown hshown width⟩

/-! ### Panels -/

section Panels

variable {message title : List Char} (htitle : Settled 0 title) {text : Styled}
  (hrender : render message = .ok text) (hshown : text.isFlawed = false)

include htitle hrender hshown

/-- A message that can be rendered stands in its panel as it is wrapped. -/
theorem successPanel_eq {width : Nat} (hwidth : width ≠ 0) :
    ∃ shown, successPanel width message title = .ok (Panel.frame width shown
      (if Panel.inner width = 0 then []
        else (wrapped none (Panel.inner width) text).map Styled.pieces)) := by
  obtain ⟨shown, htitle, hplain⟩ := panelTitle_ok htitle width
  have hrows : Markup.rows (wrapped none (Panel.inner width) text) =
      .ok ((wrapped none (Panel.inner width) text).map Styled.pieces) :=
    rows_ok (wrapped_shown hshown _)
  have hframed (content : List Row) :
      framed width shown content = .ok (Panel.frame width shown content) := by
    rw [framed, hplain]
    rfl
  refine ⟨shown, ?_⟩
  rw [successPanel, if_neg hwidth]
  show panelTitle width title >>= _ = _
  rw [Fallible.bind_ok htitle]
  dsimp only
  by_cases hinner : Panel.inner width = 0
  · rw [if_pos hinner, if_pos hinner]
    exact hframed []
  · rw [if_neg hinner, if_neg hinner, Fallible.bind_ok hrender, Fallible.bind_ok hrows]
    exact hframed _

/-- A message that fits stands in its panel line by line. -/
theorem successPanel_fits {width : Nat} (hwidth : 4 < width)
    (h : Fits (Panel.inner width) text.chars) :
    ∃ top shown bottom, successPanel width message title = .ok (top :: shown ++ [bottom]) ∧
      List.Forall₂ Framed (wholeLines text.chars) shown := by
  have hsome : width ≠ 0 := by omega
  obtain ⟨shownTitle, hpanel⟩ := successPanel_eq htitle hrender hshown hsome
  have hinner : Panel.inner width ≠ 0 := by
    unfold Panel.inner
    omega
  have hchars := wrapped_fits h
  have hlines : ∀ line ∈ wrapped none (Panel.inner width) text,
      extent line.chars ≤ Panel.inner width := by
    intro line hline
    refine h _ ?_
    rw [← hchars]
    exact List.mem_map_of_mem hline
  obtain ⟨top, shown, bottom, hframe, hframed⟩ := frame_fits hwidth hlines shownTitle
  rw [hchars] at hframed
  rw [if_neg hinner, hframe] at hpanel
  exact ⟨top, shown, bottom, hpanel, hframed⟩

end Panels

/-- A message that cannot be rendered ends in its error, if there is room for it. -/
theorem successPanel_raised {message title : List Char} {error : Markup.Error}
    (hrender : render message = .error error) (htitle : Settled 0 title) {width : Nat}
    (hwidth : 4 < width) : successPanel width message title = .error error := by
  obtain ⟨shown, htitle, -⟩ := panelTitle_ok htitle width
  have hinner : Panel.inner width ≠ 0 := by
    unfold Panel.inner
    omega
  rw [successPanel, if_neg (by omega)]
  show panelTitle width title >>= _ = _
  rw [Fallible.bind_ok htitle]
  dsimp only
  rw [if_neg hinner, hrender]
  rfl

/-- A message that can be rendered is printed in a panel. -/
theorem successPanel_ok {message title : List Char} (h : Settled 0 message)
    (htitle : Settled 0 title) (width : Nat) :
    ∃ lines, successPanel width message title = .ok lines := by
  obtain ⟨text, hrender, hshown⟩ := render_settled h
  by_cases hwidth : width = 0
  · exact ⟨[], by rw [successPanel, if_pos hwidth]; rfl⟩
  · obtain ⟨shown, hpanel⟩ := successPanel_eq htitle hrender hshown hwidth
    exact ⟨_, hpanel⟩

end ClipCadence.Console
