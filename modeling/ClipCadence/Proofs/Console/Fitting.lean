import ClipCadence.Proofs.Console.Layout
import ClipCadence.Proofs.Console.Lines
import ClipCadence.Proofs.Fallible
import Mathlib.Data.List.Forall2

/-!
Texts that fit. A line is laid out in pieces that are measured one by one, and a character may take
more room on its own than in its place, so what a line covers depends on where it is cut. `extent`
bounds it in any case: each character counts as if it stood alone, and as one cell at least. A text
whose lines have no more of that than the console has cells is printed as it is, line by line.

Main statements: `printedText_fits` and `frame_fits`, the same for the content of a panel.
-/

namespace ClipCadence

namespace Text

/-- The cells that the characters of a text cover at most, in however many pieces. -/
def extent : List Char → Nat
  | [] => 0
  | c :: rest => max 1 (charCells c) + extent rest

theorem extent_cons (c : Char) (rest : List Char) :
    extent (c :: rest) = max 1 (charCells c) + extent rest := rfl

@[simp] theorem extent_append (left right : List Char) :
    extent (left ++ right) = extent left + extent right := by
  induction left with
  | nil => exact (Nat.zero_add _).symm
  | cons c rest ih => rw [List.cons_append, extent_cons, extent_cons, ih, Nat.add_assoc]

theorem length_le_extent (text : List Char) : text.length ≤ extent text := by
  induction text with
  | nil => exact Nat.zero_le _
  | cons c rest ih =>
    rw [List.length_cons, extent_cons]
    omega

theorem extent_le_of_isPrefix {left right : List Char} (h : left <+: right) :
    extent left ≤ extent right := by
  obtain ⟨rest, rfl⟩ := h
  simp

theorem trimEnd_isPrefix (text : List Char) : trimEnd text <+: text := by
  rw [trimEnd, ← List.reverse_suffix, List.reverse_reverse]
  exact List.dropWhile_suffix isBlank

theorem selectorCells_le (last : Option Char) : selectorCells last ≤ 1 := by
  unfold selectorCells
  split <;> simp

theorem cellsAfter_le_extent (last : Option Char) (text : List Char) :
    cellsAfter last text ≤ extent text := by
  fun_induction cellsAfter last text with
  | case1 => exact Nat.zero_le _
  | case2 => exact Nat.zero_le _
  | case3 last c rest ih =>
    rw [extent_cons, extent_cons]
    omega
  | case4 last rest _ ih =>
    have := selectorCells_le last
    rw [extent_cons]
    omega
  | case5 last c rest _ _ ih =>
    rw [extent_cons]
    omega

theorem cells_le_extent (text : List Char) : cells text ≤ extent text :=
  cellsAfter_le_extent none text

end Text

namespace Console

open Text Styled

/-! ### Rows -/

theorem Row.cells_le_extent (row : Row) : row.cells ≤ extent row.flatten := by
  induction row with
  | nil => exact Nat.zero_le _
  | cons piece rest ih =>
    have := Text.cells_le_extent piece
    rw [Row.cells, List.flatten_cons, extent_append]
    omega

/-! ### Words -/

/-- The words of a line make up its beginning. -/
theorem flatten_wordsOf (fuel : Nat) (line : Line) : (wordsOf fuel line).flatten <+: line := by
  induction fuel generalizing line with
  | zero => exact List.nil_prefix
  | succ fuel ih =>
    have hsplit (p : Char → Bool) (text : List Char) :
        text.takeWhile p ++ text.dropWhile p = text := List.takeWhile_append_dropWhile
    simp only [wordsOf, List.span_eq_takeWhile_dropWhile]
    split
    · exact List.nil_prefix
    · obtain ⟨tail, htail⟩ := ih
        (((line.dropWhile isBlank).dropWhile (!isBlank ·)).dropWhile isBlank)
      refine ⟨tail, ?_⟩
      rw [List.flatten_cons, List.append_assoc, htail, List.append_assoc, hsplit,
        List.append_assoc, hsplit, hsplit]

/-- Words that fit on one line are not broken. -/
theorem breaks_fits {width used : Nat} {words : List (List Char)}
    (h : used + extent words.flatten ≤ width) (start : Nat) :
    breaks width start used words = [] := by
  induction words generalizing used start with
  | nil => rfl
  | cons word rest ih =>
    rw [List.flatten_cons, extent_append] at h
    have hword := cells_le_extent word
    have htrimmed : cells (trimEnd word) ≤ extent word :=
      (cells_le_extent _).trans (extent_le_of_isPrefix (trimEnd_isPrefix word))
    rw [breaks]
    dsimp only
    rw [if_pos (by omega)]
    exact ih (by omega) _

/-! ### Lines -/

theorem chars_dropExcess {width : Nat} {line : Styled} (h : line.length ≤ width) :
    (line.dropExcess width).chars = line.chars := by
  have hnone : line.length - width = 0 := Nat.sub_eq_zero_of_le h
  unfold dropExcess
  dsimp only
  rw [hnone, Nat.min_zero, Nat.sub_zero]
  exact List.take_length

theorem truncate_fits {width : Nat} {line : Styled} (h : line.cells ≤ width) :
    line.truncate width = line := by
  rw [truncate, if_neg (Nat.not_lt.mpr h)]

theorem wrapLine_fits {width : Nat} {line : Styled} (h : extent (withTabs line.chars) ≤ width) :
    (wrapLine none width line).map chars = [withTabs line.chars] := by
  rw [← chars_expandTabs] at h ⊢
  have hbreaks : breaks width 0 0 (words (line.expandTabs 8).chars) = [] := by
    refine breaks_fits ?_ 0
    have := extent_le_of_isPrefix (flatten_wordsOf (line.expandTabs 8).chars.length
      (line.expandTabs 8).chars)
    unfold words
    omega
  have hlength : (line.expandTabs 8).length ≤ width := (length_le_extent _).trans h
  have hchars := chars_dropExcess hlength
  have hcells : ((line.expandTabs 8).dropExcess width).cells ≤ width := by
    rw [Styled.cells, hchars]
    exact (cells_le_extent _).trans h
  unfold wrapLine
  dsimp only
  rw [hbreaks, divide, List.map_singleton, List.map_singleton, Option.elim_none,
    truncate_fits hcells, hchars]

/-- Whether a text fits on a console of some width. -/
def Fits (width : Nat) (text : List Char) : Prop :=
  ∀ line ∈ wholeLines text, extent line ≤ width

theorem wrapped_fits {width : Nat} {text : Styled} (h : Fits width text.chars) :
    (wrapped none width text).map chars = wholeLines text.chars := by
  have hlines : ∀ line ∈ text.lines,
      (wrapLine none width line).map chars = [withTabs line.chars] := by
    intro line hline
    refine wrapLine_fits (h _ ?_)
    rw [wholeLines, ← chars_lines]
    exact List.mem_map_of_mem (List.mem_map_of_mem hline)
  rw [wrapped, List.map_flatMap, List.flatMap_congr hlines, wholeLines, ← chars_lines,
    ← List.map_eq_flatMap, List.map_map]
  rfl

/-- A row that fits is printed as it is. -/
theorem print_fits {width : Nat} {line : Styled} (h : extent line.chars ≤ width) :
    line.pieces.print width = line.chars := by
  have hcells := Row.cells_le_extent line.pieces
  rw [flatten_pieces] at hcells
  rw [Row.print_of_le (hcells.trans h), flatten_pieces]

theorem rows_ok {lines : List Styled} (h : ∀ line ∈ lines, line.isFlawed = false) :
    Markup.rows lines = .ok (lines.map pieces) := by
  have hnone : lines.any Styled.isFlawed = false := by
    rw [List.any_eq_false]
    intro line hline
    simp [h line hline]
  rw [Markup.rows, hnone]
  rfl

theorem chars_highlight (text : Styled) : (Highlight.highlight text).chars = text.chars := by
  unfold Highlight.highlight
  split <;> rfl

/-- **Texts that fit.** A text that fits, all of whose styles can be shown, is printed as it is. -/
theorem printedText_fits {width : Nat} {text : Styled} (hshown : text.isFlawed = false)
    (hwidth : 0 < width) (h : Fits width text.chars) :
    printedText width text = .ok (wholeLines text.chars) := by
  let lines := wrapped none width (Highlight.highlight text)
  have hchars : lines.map chars = wholeLines text.chars := by
    rw [← chars_highlight text] at h ⊢
    exact wrapped_fits h
  have hrows : Markup.rows lines = .ok (lines.map pieces) :=
    rows_ok (wrapped_shown (highlight_shown hshown) width)
  have hprint : (lines.map pieces).map (Row.print width) = lines.map chars := by
    rw [List.map_map]
    refine List.map_congr_left fun line hline => print_fits (h _ ?_)
    rw [← hchars]
    exact List.mem_map_of_mem hline
  rw [printedText, if_neg (Nat.pos_iff_ne_zero.mp hwidth)]
  show Markup.rows lines >>= _ = _
  rw [Fallible.bind_ok hrows, hprint, hchars]
  rfl

/-! ### Panels -/

theorem Row.cells_append (first second : Row) :
    (first ++ second).cells = first.cells + second.cells := by
  induction first with
  | nil => exact (Nat.zero_add _).symm
  | cons piece rest ih => rw [List.cons_append, Row.cells, Row.cells, ih, Nat.add_assoc]

theorem cells_blanks (n : Nat) : Text.cells (Row.blanks n) = n := by
  induction n with
  | zero => rfl
  | succ n ih =>
    have hplain : ∀ c ∈ Row.blanks n, isCombiner c = false := by
      intro c hc
      rw [List.eq_of_mem_replicate hc]
      rfl
    have hblanks : Row.blanks (n + 1) = ' ' :: Row.blanks n := rfl
    rw [hblanks, Text.cells, cellsAfter_cons rfl, cellsAfter_eq_cells hplain, ih]
    exact Nat.add_comm 1 n

/-- A row that fits is filled up with blanks. -/
theorem fit_fits {width : Nat} {row : Row} (h : row.cells ≤ width) :
    (row.fit width).cells = width ∧ ∃ n, (row.fit width).flatten = row.flatten ++ Row.blanks n := by
  unfold Row.fit
  split
  · next hless =>
    refine ⟨?_, width - row.cells, by simp⟩
    rw [Row.cells_append, Row.cells, Row.cells, cells_blanks]
    omega
  · next hless =>
    rw [Row.crop_of_le h]
    exact ⟨by omega, 0, by simp [Row.blanks]⟩

theorem fit_of_eq {width : Nat} {row : Row} (h : row.cells = width) : row.fit width = row := by
  rw [Row.fit, if_neg (by omega), Row.crop_of_le (by omega)]

/-- A line of a panel: the text between the borders, with blanks after it. -/
def Framed (line : Line) (shown : Line) : Prop :=
  ∃ n, shown = "│ ".toList ++ line ++ Row.blanks n ++ " │".toList

theorem side_fits {width : Nat} {line : Styled} (hwidth : 4 ≤ width)
    (h : extent line.chars ≤ Panel.inner width) :
    Framed line.chars ((Panel.side width line.pieces).print width) := by
  have hcells := Row.cells_le_extent line.pieces
  rw [flatten_pieces] at hcells
  obtain ⟨hfit, n, hflatten⟩ := fit_fits (hcells.trans h)
  rw [flatten_pieces] at hflatten
  let inside : Row := Row.padded (Row.fit (Panel.inner width) line.pieces)
  have hinside : inside.cells = width - 2 := by
    have hblank : Text.cells [' '] = 1 := rfl
    have hpadded : inside.cells = 1 + (Row.fit (Panel.inner width) line.pieces).cells + 1 := by
      simp only [inside, Row.padded, Row.cells_append, Row.cells, hblank]
    rw [hpadded, hfit, Panel.inner]
    omega
  have hside : Panel.side width line.pieces = ['│'] :: inside ++ [['│']] := by
    show ['│'] :: inside.fit (width - 2) ++ [['│']] = _
    rw [fit_of_eq hinside]
  have hborder : Text.cells ['│'] = 1 := by decide +kernel
  have hwhole : (Panel.side width line.pieces).cells ≤ width := by
    rw [hside]
    simp only [Row.cells_append, Row.cells, hborder, hinside]
    omega
  refine ⟨n, ?_⟩
  rw [Row.print_of_le hwhole, hside]
  simp [inside, Row.padded, hflatten]

/-- The content of a panel in which it fits stands there line by line. -/
theorem frame_fits {width : Nat} {lines : List Styled} (hwidth : 4 < width)
    (h : ∀ line ∈ lines, extent line.chars ≤ Panel.inner width) (title : Option Styled) :
    ∃ top shown bottom, Panel.frame width title (lines.map pieces) = top :: shown ++ [bottom] ∧
      List.Forall₂ Framed (lines.map chars) shown := by
  have hinner : Panel.inner width ≠ 0 := by
    unfold Panel.inner
    omega
  refine ⟨(Panel.top width title).print width,
    (lines.map fun line => (Panel.side width line.pieces).print width),
    (Panel.bottom width).print width, ?_, ?_⟩
  · simp [Panel.frame, hinner]
  · rw [List.forall₂_map_left_iff, List.forall₂_map_right_iff]
    exact List.forall₂_same.mpr fun line hline => side_fits (Nat.le_of_lt hwidth) (h line hline)

end Console

end ClipCadence
