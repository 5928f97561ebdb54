import ClipCadence.Console.Wrap
import Mathlib.Data.List.Infix

/-!
The lines of a text before it is laid out. A styled text is taken apart at its line feeds, and tabs
are filled up, by its characters alone, so what its lines are is said of the characters:
`wholeLines` are the stretches between the line feeds, each with its tabs filled up. A text of one
line stays one, and what stands at the start of a line, if there is no tab in it, still does.

Main statement: `chars_lines`, the styled lines have these characters.
-/

namespace ClipCadence.Console

namespace Styled

/-! ### Tabs -/

theorem positions_congr {first second : Styled} (h : first.chars = second.chars) (c : Char) :
    first.positions c = second.positions c := by
  unfold positions
  rw [h]

/-- The characters of the parts of a text. -/
theorem chars_divide (text : Styled) (cuts : List Nat) :
    (text.divide cuts).map chars =
      ((0 :: cuts).zip (cuts ++ [text.chars.length])).map fun bounds =>
        (text.chars.drop bounds.1).take (bounds.2 - bounds.1) := by
  unfold divide
  split
  · simp
  · rw [List.map_map]
    rfl

theorem chars_join (parts : List Styled) : (join parts).chars = (parts.map chars).flatten := by
  induction parts with
  | nil => rfl
  | cons part rest ih =>
    rw [List.map_cons, List.flatten_cons, ← ih]
    rfl

theorem expandParts_congr {first second : List Styled} (h : first.map chars = second.map chars)
    (size column : Nat) :
    (expandParts size column first).map chars = (expandParts size column second).map chars := by
  induction first generalizing second column with
  | nil => rw [List.map_eq_nil_iff.mp h.symm]
  | cons part rest ih =>
    obtain ⟨other, others, rfl, hpart, hrest⟩ := List.map_eq_cons_iff.mp h.symm
    have hcells : part.cells = other.cells := congrArg Text.cells hpart.symm
    rw [expandParts, expandParts, hpart]
    split
    · simp only [List.map_cons, extend, cells, ih hrest.symm]
    · simp only [List.map_cons, hpart, hcells, ih hrest.symm]

theorem expandTabs_congr {first second : Styled} (h : first.chars = second.chars) (size : Nat) :
    (first.expandTabs size).chars = (second.expandTabs size).chars := by
  unfold expandTabs
  rw [positions_congr h]
  split
  · exact h
  · have hparts (tabs : List Nat) :
        ((first.divide tabs).filter fun part => !part.chars.isEmpty).map chars =
          ((second.divide tabs).filter fun part => !part.chars.isEmpty).map chars := by
      have hdivide : (first.divide tabs).map chars = (second.divide tabs).map chars := by
        rw [chars_divide, chars_divide, h]
      have hfilter := congrArg (List.filter fun chars => !chars.isEmpty) hdivide
      rwa [List.filter_map, List.filter_map] at hfilter
    rw [chars_join, chars_join, expandParts_congr (hparts _)]

end Styled

open Styled

/-- A line with its tabs filled up. -/
def withTabs (line : Line) : Line := ((Styled.mk line []).expandTabs 8).chars

theorem chars_expandTabs (line : Styled) : (line.expandTabs 8).chars = withTabs line.chars := by
  have hchars : line.chars = (Styled.mk line.chars []).chars := rfl
  exact expandTabs_congr hchars 8

theorem positions_append (c : Char) (front rest : List Char) :
    (Styled.mk (front ++ rest) []).positions c =
      (Styled.mk front []).positions c ++
        ((rest.zipIdx front.length).filter (·.1 = c)).map (·.2) := by
  simp [positions, List.zipIdx_append]

theorem positions_of_notMem {c : Char} {line : Line} (h : c ∉ line) :
    (Styled.mk line []).positions c = [] := by
  simp only [positions, List.map_eq_nil_iff, List.filter_eq_nil_iff]
  intro entry hentry heq
  exact h (of_decide_eq_true heq ▸ List.fst_mem_of_mem_zipIdx hentry)

theorem notMem_of_positions {c : Char} {line : Line} (h : (Styled.mk line []).positions c = []) :
    c ∉ line := by
  intro hmem
  rw [positions, List.map_eq_nil_iff, List.filter_eq_nil_iff] at h
  obtain ⟨place, hplace⟩ := List.mem_iff_getElem?.mp hmem
  exact h (c, place) (List.mem_zipIdx_iff_getElem?.mpr hplace) (by simp)

theorem withTabs_of_notMem {line : Line} (h : '\t' ∉ line) : withTabs line = line := by
  unfold withTabs expandTabs
  rw [positions_of_notMem h]

theorem chars_expandParts_cons {front : Line} (h : '\t' ∉ front) {part : Styled}
    (hpart : front <+: part.chars) (size column : Nat) (rest : List Styled) :
    front <+: ((expandParts size column (part :: rest)).map chars).flatten := by
  rw [expandParts]
  split
  · next hlast =>
    obtain ⟨before, hbefore⟩ := List.getLast?_eq_some_iff.mp hlast
    have hfront : front <+: before := by
      rw [hbefore, List.prefix_concat_iff] at hpart
      exact hpart.resolve_left fun heq => h (heq ▸ by simp)
    rw [hbefore, List.dropLast_concat, List.map_cons, List.flatten_cons]
    simp only [extend, List.append_assoc]
    exact hfront.trans (List.prefix_append ..)
  · rw [List.map_cons, List.flatten_cons]
    exact hpart.trans (List.prefix_append ..)

/-- The tabs of a line that starts without one come later. -/
theorem mem_positions {c : Char} {front rest : List Char} (h : c ∉ front) {place : Nat}
    (hplace : place ∈ (Styled.mk (front ++ rest) []).positions c) :
    front.length ≤ place ∧ place < (front ++ rest).length := by
  rw [positions_append, positions_of_notMem h, List.nil_append] at hplace
  obtain ⟨⟨found, place⟩, hentry, rfl⟩ := List.mem_map.mp hplace
  obtain ⟨hlow, hhigh, -⟩ := List.mem_zipIdx (List.mem_of_mem_filter hentry)
  exact ⟨hlow, by simpa using hhigh⟩

/-- Filling up the tabs of a line leaves what stands before the first one. -/
theorem withTabs_append {front : Line} (h : '\t' ∉ front) (rest : Line) :
    front <+: withTabs (front ++ rest) := by
  unfold withTabs expandTabs
  split
  · exact List.prefix_append front rest
  · next tabs hsome =>
    let line : Styled := ⟨front ++ rest, []⟩
    obtain ⟨tab, others, htabs⟩ := List.exists_cons_of_ne_nil fun hnil => hsome hnil
    obtain ⟨hlow, hhigh⟩ : front.length ≤ tab ∧ tab < (front ++ rest).length :=
      mem_positions h (htabs ▸ List.mem_cons_self)
    have hfirst : front <+: (line.slice 0 (tab + 1)).chars :=
      List.prefix_take_iff.mpr ⟨List.prefix_append front rest, by omega⟩
    have hlength : (line.slice 0 (tab + 1)).chars.length = min (tab + 1) (front ++ rest).length :=
      List.length_take
    have hnonempty : (line.slice 0 (tab + 1)).chars.isEmpty = false := by
      rw [List.isEmpty_eq_false_iff, ← List.length_pos_iff]
      omega
    obtain ⟨later, hdivide⟩ : ∃ later, line.divide ((tab :: others).map (· + 1)) =
        line.slice 0 (tab + 1) :: later := ⟨_, rfl⟩
    rw [htabs, chars_join, hdivide, List.filter_cons, hnonempty]
    exact chars_expandParts_cons h hfirst 8 0 _

/-! ### Lines -/

/-- The lines of a text, with their tabs filled up. -/
def wholeLines (text : List Char) : List Line := (text.splitOn '\n').map withTabs

theorem positions_cons (c first : Char) (rest : List Char) :
    (Styled.mk (first :: rest) []).positions c =
      (if first = c then [0] else []) ++ ((Styled.mk rest []).positions c).map (· + 1) := by
  have hshift : ∀ entries : List (Char × Nat),
      ((entries.map (Prod.map id (· + 1))).filter (·.1 = c)).map (·.2) =
        ((entries.filter (·.1 = c)).map (·.2)).map (· + 1) := by
    intro entries
    rw [List.filter_map, List.map_map, List.map_map]
    rfl
  unfold positions
  rw [List.zipIdx_cons', List.filter_cons]
  by_cases hfirst : first = c <;> simp [hfirst, hshift]

/-- The characters between the bounds of stretches. -/
def stretches (text : List Char) (starts stops : List Nat) : List (List Char) :=
  (starts.zip stops).map fun bounds => (text.drop bounds.1).take (bounds.2 - bounds.1)

theorem stretches_cons_cons (text : List Char) (start stop : Nat) (starts stops : List Nat) :
    stretches text (start :: starts) (stop :: stops) =
      (text.drop start).take (stop - start) :: stretches text starts stops := rfl

theorem stretches_shift (c : Char) (text : List Char) (starts stops : List Nat) :
    stretches (c :: text) (starts.map (· + 1)) (stops.map (· + 1)) =
      stretches text starts stops := by
  unfold stretches
  rw [List.zip_map, List.map_map]
  refine List.map_congr_left ?_
  rintro ⟨start, stop⟩ -
  simp

/-- The stretches between the places of the line feeds are what the text is split into. -/
theorem stretches_positions (text : List Char) :
    stretches text (0 :: ((Styled.mk text []).positions '\n').map (· + 1))
      ((Styled.mk text []).positions '\n' ++ [text.length]) = text.splitOn '\n' := by
  induction text with
  | nil => rfl
  | cons c rest ih =>
    rw [positions_cons, List.splitOn_cons_eq_if_modifyHead, ← ih]
    generalize (Styled.mk rest []).positions '\n' = ends
    have hstops : ends.map (· + 1) ++ [(c :: rest).length] =
        (ends ++ [rest.length]).map (· + 1) := by
      simp
    by_cases hc : c = '\n'
    · subst hc
      have hshift := stretches_shift '\n' rest (0 :: ends.map (· + 1)) (ends ++ [rest.length])
      rw [if_pos rfl, if_pos (by decide), List.append_assoc, hstops, List.singleton_append,
        List.singleton_append, stretches_cons_cons]
      exact congrArg ([] :: ·) hshift
    · rw [if_neg hc, if_neg (by simpa using hc), List.nil_append, hstops]
      obtain ⟨stop, stops, hall⟩ : ∃ stop stops, ends ++ [rest.length] = stop :: stops :=
        List.exists_cons_of_ne_nil (by simp)
      rw [hall, List.map_cons, stretches_cons_cons, stretches_shift, stretches_cons_cons]
      simp

/-- In the stretches up to and with the occurrences of a character it stands at the end only. -/
theorem notMem_dropLast_stretches (c : Char) (text : List Char) :
    ∀ part ∈ stretches text (0 :: ((Styled.mk text []).positions c).map (· + 1))
      (((Styled.mk text []).positions c).map (· + 1) ++ [text.length]), c ∉ part.dropLast := by
  induction text with
  | nil => simp [positions, stretches]
  | cons first rest ih =>
    rw [positions_cons]
    revert ih
    generalize ((Styled.mk rest []).positions c).map (· + 1) = cuts
    intro ih
    have hstops : cuts.map (· + 1) ++ [(first :: rest).length] =
        (cuts ++ [rest.length]).map (· + 1) := by
      simp
    rw [List.map_append, List.append_assoc, hstops]
    by_cases hfirst : first = c
    · have hshift := stretches_shift first rest (0 :: cuts) (cuts ++ [rest.length])
      rw [if_pos hfirst, List.map_singleton, List.singleton_append, List.singleton_append,
        stretches_cons_cons]
      intro part hpart
      rcases List.mem_cons.mp hpart with rfl | hpart
      · simp
      · exact ih part (hshift ▸ hpart)
    · obtain ⟨stop, stops, hall⟩ : ∃ stop stops, cuts ++ [rest.length] = stop :: stops :=
        List.exists_cons_of_ne_nil (by simp)
      rw [hall, stretches_cons_cons] at ih
      rw [if_neg hfirst, List.map_nil, List.nil_append, List.nil_append, hall, List.map_cons,
        stretches_cons_cons, stretches_shift]
      obtain ⟨hhead, htail⟩ := List.forall_mem_cons.mp ih
      refine List.forall_mem_cons.mpr ⟨?_, htail⟩
      rw [List.drop_zero, Nat.sub_zero] at hhead ⊢
      rw [List.take_succ_cons]
      cases hpart : rest.take stop with
      | nil => simp
      | cons second part =>
        rw [hpart] at hhead
        simpa [Ne.symm hfirst] using hhead

/-- The lines of a styled text have the characters of its lines. -/
theorem chars_lines (text : Styled) :
    text.lines.map chars = text.chars.splitOn '\n' := by
  have hplain : text.positions '\n' = (Styled.mk text.chars []).positions '\n' :=
    positions_congr rfl '\n'
  rw [← stretches_positions, ← hplain]
  unfold lines
  split
  · next hnone => simp [hnone, stretches]
  · rw [List.map_map]
    rfl

theorem length_wholeLines (text : List Char) : (wholeLines text).length = text.count '\n' + 1 := by
  rw [wholeLines, List.length_map]
  induction text with
  | nil => rfl
  | cons c rest ih =>
    rw [List.splitOn_cons_eq_if_modifyHead, List.count_cons]
    split <;> simp [ih]

theorem wholeLines_of_notMem {text : List Char} (h : '\n' ∉ text) :
    wholeLines text = [withTabs text] := by
  have hsplit : text.splitOn '\n' = [text] := List.splitOn_eq_singleton h
  rw [wholeLines, hsplit, List.map_singleton]

theorem notMem_expandParts {parts : List Styled} (h : ∀ part ∈ parts, '\t' ∉ part.chars.dropLast)
    (size column : Nat) : ∀ part ∈ expandParts size column parts, '\t' ∉ part.chars := by
  induction parts generalizing column with
  | nil => simp [expandParts]
  | cons part rest ih =>
    obtain ⟨hpart, hrest⟩ := List.forall_mem_cons.mp h
    rw [expandParts]
    split
    · next hlast =>
      refine List.forall_mem_cons.mpr ⟨?_, ih hrest _⟩
      simp [extend, Row.blanks, hpart]
    · next hlast =>
      refine List.forall_mem_cons.mpr ⟨fun htab => ?_, ih hrest _⟩
      obtain ⟨start, last, hchars⟩ := (List.eq_nil_or_concat part.chars).resolve_left
        (List.ne_nil_of_mem htab)
      rw [hchars, List.concat_eq_append] at htab hpart hlast
      rw [List.dropLast_concat] at hpart
      rcases List.mem_append.mp htab with hstart | hend
      · exact hpart hstart
      · exact hlast (by simpa using (List.mem_singleton.mp hend).symm)

/-- No tab is left in a line. -/
theorem notMem_withTabs (line : Line) : '\t' ∉ withTabs line := by
  unfold withTabs expandTabs
  split
  · next hnone => exact notMem_of_positions hnone
  · next tabs hsome =>
    rw [chars_join, List.mem_flatten]
    rintro ⟨chars, hchars, htab⟩
    obtain ⟨part, hpart, rfl⟩ := List.mem_map.mp hchars
    refine notMem_expandParts (fun part hpart => ?_) 8 0 part hpart htab
    have hdivide := chars_divide ⟨line, []⟩ (((Styled.mk line []).positions '\t').map (· + 1))
    refine notMem_dropLast_stretches '\t' line part.chars ?_
    rw [stretches, ← hdivide]
    exact List.mem_map_of_mem (List.mem_of_mem_filter hpart)

/-- Lines that are put together are found again. -/
theorem wholeLines_intercalate {lines : List Line} (hsome : lines ≠ [])
    (hline : ∀ line ∈ lines, '\n' ∉ line) (htab : ∀ line ∈ lines, '\t' ∉ line) :
    wholeLines (List.intercalate ['\n'] lines) = lines := by
  have hkept : lines.map withTabs = lines.map id :=
    List.map_congr_left fun line hline => withTabs_of_notMem (htab line hline)
  rw [wholeLines, List.splitOn_intercalate '\n' hline hsome, hkept, List.map_id]

theorem splitOn_append {front : List Char} (h : '\n' ∉ front) (rest : List Char) :
    (front ++ rest).splitOn '\n' = (rest.splitOn '\n').modifyHead (front ++ ·) := by
  induction front with
  | nil =>
    rw [List.nil_append]
    cases rest.splitOn '\n' <;> rfl
  | cons c front ih =>
    obtain ⟨hc, hfront⟩ := not_or.mp (List.mem_cons.not.mp h)
    rw [List.cons_append, List.splitOn_cons_eq_if_modifyHead, ih hfront,
      if_neg (by simpa using Ne.symm hc)]
    cases rest.splitOn '\n' <;> rfl

/-- The first line of a text starts as the text does. -/
theorem wholeLines_append {front : List Char} (hline : '\n' ∉ front) (htab : '\t' ∉ front)
    (rest : List Char) :
    ∃ first later, wholeLines (front ++ rest) = first :: later ∧ front <+: first := by
  obtain ⟨line, lines, hlines⟩ := List.exists_cons_of_ne_nil (List.splitOn_ne_nil '\n' rest)
  refine ⟨withTabs (front ++ line), lines.map withTabs, ?_, withTabs_append htab line⟩
  rw [wholeLines, splitOn_append hline, hlines]
  rfl

end ClipCadence.Console
