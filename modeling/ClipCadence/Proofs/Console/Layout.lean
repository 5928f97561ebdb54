import ClipCadence.Console.Messages

/-!
Laying out a text does not make a style that cannot be shown. Whatever cuts a text, joins texts or
fills them up only moves and drops stretches; so a text all of whose styles can be shown is printed.

Main statement: `printedText_ok`.
-/

namespace ClipCadence.Console

open Text

namespace Styled

theorem isFlawed_eq_false_iff {text : Styled} :
    text.isFlawed = false ↔ ∀ s ∈ text.styles, s.isFlawed = false := by
  simp [isFlawed]

/-! ### Parts of a text -/

section Parts

variable {text : Styled} (h : text.isFlawed = false)

include h

theorem slice_shown (start stop : Nat) : (text.slice start stop).isFlawed = false := by
  rw [isFlawed_eq_false_iff] at h ⊢
  intro part hpart
  obtain ⟨s, hs, hwithin⟩ := List.mem_filterMap.mp hpart
  dsimp only [Stretch.within?] at hwithin
  split at hwithin
  · rw [← Option.some.inj hwithin]
    exact h s hs
  · cases hwithin

theorem divide_shown (cuts : List Nat) : ∀ part ∈ text.divide cuts, part.isFlawed = false := by
  intro part hpart
  unfold divide at hpart
  split at hpart
  · rw [List.mem_singleton.mp hpart]
    exact h
  · obtain ⟨bounds, -, rfl⟩ := List.mem_map.mp hpart
    exact slice_shown h ..

theorem lines_shown : ∀ line ∈ text.lines, line.isFlawed = false := by
  intro line hline
  unfold lines at hline
  split at hline
  · rw [List.mem_singleton.mp hline]
    exact h
  · obtain ⟨bounds, -, rfl⟩ := List.mem_map.mp hline
    exact slice_shown h ..

theorem take_shown (n : Nat) : (text.take n).isFlawed = false := by
  rw [isFlawed_eq_false_iff] at h ⊢
  intro part hpart
  obtain ⟨s, hs, rfl⟩ := List.mem_map.mp hpart
  exact h s (List.mem_filter.mp hs).1

theorem truncate_shown (width : Nat) : (text.truncate width).isFlawed = false := by
  unfold truncate
  split
  · exact take_shown h _
  · exact h

theorem dropExcess_shown (width : Nat) : (text.dropExcess width).isFlawed = false :=
  take_shown h _

/-! ### Joined and filled texts -/

theorem append_shown {other : Styled} (hother : other.isFlawed = false) :
    (append text other).isFlawed = false := by
  rw [isFlawed_eq_false_iff] at h hother ⊢
  refine List.forall_mem_append.mpr ⟨h, fun part hpart => ?_⟩
  obtain ⟨s, hs, rfl⟩ := List.mem_map.mp hpart
  exact hother s hs

theorem extend_shown (n : Nat) : (text.extend n).isFlawed = false := by
  rw [isFlawed_eq_false_iff] at h ⊢
  intro part hpart
  obtain ⟨s, hs, rfl⟩ := List.mem_map.mp hpart
  split <;> exact h s hs

end Parts

theorem join_shown {parts : List Styled} (h : ∀ part ∈ parts, part.isFlawed = false) :
    (join parts).isFlawed = false := by
  induction parts with
  | nil => rfl
  | cons part rest ih =>
    obtain ⟨hpart, hrest⟩ := List.forall_mem_cons.mp h
    exact append_shown hpart (ih hrest)

theorem expandParts_shown {parts : List Styled} (h : ∀ part ∈ parts, part.isFlawed = false)
    (size column : Nat) : ∀ part ∈ expandParts size column parts, part.isFlawed = false := by
  induction parts generalizing column with
  | nil => simp [expandParts]
  | cons part rest ih =>
    obtain ⟨hpart, hrest⟩ := List.forall_mem_cons.mp h
    rw [expandParts]
    split
    · have hblank : Styled.isFlawed { part with chars := part.chars.dropLast ++ [' '] } = false :=
        hpart
      exact List.forall_mem_cons.mpr ⟨extend_shown hblank _, ih hrest _⟩
    · exact List.forall_mem_cons.mpr ⟨hpart, ih hrest _⟩

theorem expandTabs_shown {line : Styled} (h : line.isFlawed = false) (size : Nat) :
    (line.expandTabs size).isFlawed = false := by
  unfold expandTabs
  split
  · exact h
  · refine join_shown (expandParts_shown (fun part hpart => ?_) size 0)
    exact divide_shown h _ part (List.mem_filter.mp hpart).1

end Styled

open Styled

theorem wrapLine_shown {line : Styled} (h : line.isFlawed = false) (width : Nat) :
    ∀ part ∈ wrapLine none width line, part.isFlawed = false := by
  intro part hpart
  obtain ⟨cut, hcut, rfl⟩ := List.mem_map.mp hpart
  have hpart := divide_shown (expandTabs_shown h 8) _ cut hcut
  exact truncate_shown (dropExcess_shown hpart width) width

theorem wrapped_shown {text : Styled} (h : text.isFlawed = false) (width : Nat) :
    ∀ line ∈ wrapped none width text, line.isFlawed = false := by
  intro line hline
  obtain ⟨whole, hwhole, hline⟩ := List.mem_flatMap.mp hline
  exact wrapLine_shown (lines_shown h whole hwhole) width line hline

theorem highlight_shown {text : Styled} (h : text.isFlawed = false) :
    (Highlight.highlight text).isFlawed = false := by
  unfold Highlight.highlight
  split
  · rw [isFlawed_eq_false_iff] at h ⊢
    refine List.forall_mem_append.mpr ⟨fun part hpart => ?_, h⟩
    obtain ⟨bounds, -, rfl⟩ := List.mem_map.mp hpart
    rfl
  · exact h

/-- A text whose styles can all be shown is printed. -/
theorem printedText_ok {text : Styled} (h : text.isFlawed = false) (width : Nat) :
    ∃ lines, printedText width text = .ok lines := by
  have hlines := wrapped_shown (highlight_shown h) width
  have hnone : (wrapped none width (Highlight.highlight text)).any Styled.isFlawed = false := by
    rw [List.any_eq_false]
    intro line hline
    simp [hlines line hline]
  unfold printedText Markup.rows
  rw [hnone]
  split <;> exact ⟨_, rfl⟩

end ClipCadence.Console
