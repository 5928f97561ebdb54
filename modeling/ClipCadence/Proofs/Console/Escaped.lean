import ClipCadence.Proofs.Console.Shown

/-!
Escaped texts in a template. A text that has been escaped is inert: each bracket in it that starts a
tag stands after an odd number of backslashes, and each other one starts none afterwards either. Of
the text all is shown but for backslashes: one is lost before each bracket that starts no tag, and
those at its end count with what follows it. That an escaped text may stand in any template, and
what is shown of it there, follows from what it is read as.

Main statement: `inert_escape`.
-/

namespace ClipCadence.Console.Markup

open Text

/-! ### Escaping -/

theorem closesFirst_slashes (n : Nat) (rest : List Char) :
    closesFirst (slashes n ++ rest) = closesFirst rest :=
  closesFirst_append (by simp [slashes, isBracket]) rest

/-- Escaping does not change which bracket comes first, since it only adds backslashes. -/
theorem closesFirst_escapeFrom {tail : List Char} (htail : closesFirst tail = false) (before : Nat)
    (text : List Char) :
    closesFirst (escapeFrom before 0 text ++ tail) = closesFirst text := by
  induction text generalizing before with
  | nil => rwa [escapeFrom, closesFirst_slashes]
  | cons c rest ih =>
    rw [escapeFrom]
    split
    · next hslash =>
      subst hslash
      exact ih (before + 1)
    · split
      · next hbracket =>
        subst hbracket
        cases tag? rest with
        | none => exact (congrArg closesFirst (List.append_assoc ..)).trans (closesFirst_slashes ..)
        | some content =>
          exact (congrArg closesFirst (List.append_assoc ..)).trans (closesFirst_slashes ..)
      · rw [List.append_assoc, closesFirst_slashes, List.cons_append, closesFirst_cons,
          closesFirst_cons, ih 0]

theorem escapeFrom_slash (before : Nat) (text : List Char) :
    ∃ rest, escapeFrom (before + 1) 0 text = '\\' :: rest := by
  induction text generalizing before with
  | nil => exact ⟨_, rfl⟩
  | cons c rest ih =>
    rw [escapeFrom]
    split
    · exact ih (before + 1)
    · split
      · cases tag? rest <;> exact ⟨_, rfl⟩
      · exact ⟨_, rfl⟩

theorem tag?_of_not_starts {c : Char} (h : startsTag c = false) (rest : List Char) :
    tag? (c :: rest) = none := by rw [tag?_cons, h]; rfl

/-- A text that starts no tag after a bracket starts none there when it has been escaped. -/
theorem tag?_escapeFrom_none {tail text : List Char} (htail : closesFirst tail = false)
    (h : tag? text = none) : tag? (escapeFrom 0 0 text ++ tail) = none := by
  obtain _ | ⟨c, rest⟩ := text
  · exact tag?_eq_none htail
  · rw [escapeFrom]
    split
    · obtain ⟨after, hafter⟩ := escapeFrom_slash 0 rest
      rw [hafter]
      exact tag?_of_not_starts (by decide) _
    · split
      · cases tag? rest <;> exact tag?_of_not_starts (by decide) _
      · show tag? (c :: (escapeFrom 0 0 rest ++ tail)) = none
        have hstarts : (startsTag c && closesFirst rest) = false := by
          rw [tag?_cons] at h
          cases hboth : startsTag c && closesFirst rest with
          | false => rfl
          | true => rw [hboth] at h; cases h
        rw [tag?_cons, closesFirst_escapeFrom htail, hstarts]
        rfl

/-- The part of a text that belongs to a tag stays as it is. -/
theorem escapeFrom_skip (skip : Nat) {text : List Char} (h : skip ≤ text.length) :
    escapeFrom 0 skip text = text.take skip ++ escapeFrom 0 0 (text.drop skip) := by
  induction skip generalizing text with
  | zero => rfl
  | succ skip ih =>
    obtain _ | ⟨c, rest⟩ := text
    · exact absurd h (by simp)
    · rw [escapeFrom, ih (Nat.le_of_succ_le_succ h)]
      rfl

/-- A tag is escaped by its backslashes: those before it are doubled and one is added, so their
number is odd. -/
theorem escapeFrom_tag {content : List Char} (h : IsTag content) (before : Nat)
    (after : List Char) :
    escapeFrom before 0 (bracketed content ++ after) =
      slashes (2 * before + 1) ++ (bracketed content ++ escapeFrom 0 0 after) := by
  have hbracketed (rest : List Char) :
      bracketed content ++ rest = '[' :: (content ++ ']' :: rest) := by simp [bracketed]
  have hskip : escapeFrom 0 (content.length + 1) (content ++ ']' :: after) =
      content ++ ']' :: escapeFrom 0 0 after := by
    rw [escapeFrom_skip _ (by simp), List.append_cons, List.take_left' (by simp),
      List.drop_left' (by simp), List.append_assoc]
    rfl
  rw [hbracketed, hbracketed, escapeFrom, if_neg (by decide), if_pos rfl, tag?_append h]
  dsimp only
  rw [hskip]

/-- How a text is escaped: backslash by backslash, bracket by bracket, and tag by tag. All of a tag
is passed over at once, so the induction is on the length of the text. -/
theorem escape_induction {motive : Nat → List Char → Prop} (nil : ∀ before, motive before [])
    (slash : ∀ before rest, motive (before + 1) rest → motive before ('\\' :: rest))
    (bracket : ∀ before rest, tag? rest = none → motive 0 rest → motive before ('[' :: rest))
    (tag : ∀ before content after, IsTag content → motive 0 after →
      motive before (bracketed content ++ after))
    (other : ∀ before c rest, c ≠ '\\' → c ≠ '[' → motive 0 rest → motive before (c :: rest))
    (before : Nat) (text : List Char) : motive before text := by
  induction hlength : text.length using Nat.strong_induction_on generalizing before text with
  | _ length ih =>
    subst hlength
    obtain _ | ⟨c, rest⟩ := text
    · exact nil before
    · by_cases hslash : c = '\\'
      · subst hslash
        exact slash before rest (ih rest.length (by simp) (before + 1) rest rfl)
      by_cases hbracket : c = '['
      · subst hbracket
        cases hfound : tag? rest with
        | none => exact bracket before rest hfound (ih rest.length (by simp) 0 rest rfl)
        | some content =>
          obtain ⟨htag, after, rfl⟩ := tag?_eq_some_iff.mp hfound
          have hafter := ih after.length (by simp; omega) 0 after rfl
          simpa [bracketed] using tag before content after htag hafter
      · exact other before c rest hslash hbracket (ih rest.length (by simp) 0 rest rfl)

/-! ### What is shown of an escaped text -/

/-- A tag in a text that is escaped is shown with all backslashes before it. -/
theorem shownFrom_tag {content : List Char} (h : IsTag content) (before : Nat)
    (after : List Char) :
    shownFrom before (bracketed content ++ after) =
      slashes before ++ (bracketed content ++ shownFrom 0 after) := by
  have hplain : '[' ∉ content ++ [']'] := by
    intro hbracket
    rcases List.mem_append.mp hbracket with hcontent | hclosing
    · exact absurd (List.all_eq_true.mp h.inside _ hcontent) (by decide)
    · exact absurd hclosing (by decide)
  have hinside := shownFrom_concat 0 hplain (by decide) after
  have hfound : tag? (content ++ [']'] ++ after) = some content := by
    rw [List.append_assoc]
    exact tag?_append h after
  have hcons : bracketed content ++ after = '[' :: (content ++ [']'] ++ after) := by
    simp [bracketed]
  rw [hcons, shownFrom, if_neg (by decide), if_pos rfl, hfound, hinside]
  simp [bracketed, slashes]

theorem slashesAtEnd_tag (content : List Char) (before : Nat) (after : List Char) :
    slashesAtEnd before (bracketed content ++ after) = slashesAtEnd 0 after :=
  slashesAtEnd_concat before ('[' :: content) (by decide) after

theorem closesFirst_append_bracket (text rest : List Char) :
    closesFirst (text ++ '[' :: rest) = closesFirst text := by
  induction text with
  | nil => rfl
  | cons c text ih => rw [List.cons_append, closesFirst_cons, closesFirst_cons, ih]

/-- What comes before a bracket is read the same whatever comes after it. -/
theorem isSome_tag?_append_bracket (text rest : List Char) :
    (tag? (text ++ '[' :: rest)).isSome = (tag? text).isSome := by
  cases text with
  | nil => rfl
  | cons c text =>
    rw [List.cons_append, tag?_cons, tag?_cons, closesFirst_append_bracket]
    cases startsTag c && closesFirst text <;> rfl

theorem shownFrom_append_bracket (before : Nat) (text rest : List Char) :
    shownFrom before (text ++ '[' :: rest) =
      shownFrom before text ++ shownFrom (slashesAtEnd before text) ('[' :: rest) := by
  induction text generalizing before with
  | nil => rfl
  | cons c text ih =>
    rw [List.cons_append, shownFrom, shownFrom, slashesAtEnd, List.foldl_cons, ← slashesAtEnd]
    split
    · exact ih (before + 1)
    · split
      · rw [isSome_tag?_append_bracket, ih, List.append_assoc]
        rfl
      · rw [ih, List.append_assoc]
        rfl

theorem count_slashes {c : Char} (h : c ≠ '\\') (n : Nat) : (slashes n).count c = 0 := by
  rw [slashes, List.count_replicate, if_neg (by simpa using Ne.symm h)]

/-- Nothing but backslashes is lost of an escaped text. -/
theorem count_shownFrom {c : Char} (h : c ≠ '\\') (before : Nat) (text : List Char) :
    (shownFrom before text).count c = text.count c := by
  induction text generalizing before with
  | nil => rfl
  | cons first rest ih =>
    rw [shownFrom]
    split
    · next hslash => rw [ih, hslash, List.count_cons_of_ne (by simpa using Ne.symm h)]
    · split
      · next hbracket =>
        rw [List.count_append, count_slashes h, Nat.zero_add, hbracket, List.count_cons,
          List.count_cons, ih]
      · rw [List.count_append, count_slashes h, Nat.zero_add, List.count_cons, List.count_cons, ih]

/-! ### The end of an escaped text -/

theorem slashesAtEnd_last (before : Nat) (start : List Char) (last : Char) :
    slashesAtEnd before (start ++ [last]) =
      if last = '\\' then slashesAtEnd before start + 1 else 0 := by
  simp [slashesAtEnd]

theorem endsInOneSlash_iff (text : List Char) :
    endsInOneSlash text = true ↔ slashesAtEnd 0 text = 1 := by
  rcases List.eq_nil_or_concat text with rfl | ⟨start, last, rfl⟩
  · decide
  · rw [List.concat_eq_append, slashesAtEnd_last, endsInOneSlash, List.reverse_append]
    by_cases hlast : last = '\\'
    · subst hlast
      rcases List.eq_nil_or_concat start with rfl | ⟨start, last, rfl⟩
      · decide
      · rw [List.concat_eq_append, slashesAtEnd_last]
        by_cases hlast : last = '\\' <;> simp [hlast]
    · simp [hlast]

theorem slashesAtEnd_slashes (before n : Nat) (rest : List Char) :
    slashesAtEnd before (slashes n ++ rest) = slashesAtEnd (before + n) rest := by
  induction n generalizing before with
  | zero => rfl
  | succ n ih =>
    rw [slashes, List.replicate_succ, List.cons_append]
    show slashesAtEnd (before + 1) (slashes n ++ rest) = _
    rw [ih, Nat.add_right_comm, Nat.add_assoc]

/-- Escaping changes none of the backslashes at the end of a text. -/
theorem slashesAtEnd_escapeFrom (before : Nat) (text : List Char) :
    slashesAtEnd 0 (escapeFrom before 0 text) = slashesAtEnd before text := by
  induction before, text using escape_induction with
  | nil before =>
    have hslashes := slashesAtEnd_slashes 0 before []
    rwa [List.append_nil, Nat.zero_add] at hslashes
  | slash before rest ih =>
    rw [escapeFrom, if_pos rfl]
    exact ih
  | bracket before rest hnone ih =>
    rw [escapeFrom, if_neg (by decide), if_pos rfl, hnone]
    dsimp only
    rw [slashesAtEnd_slashes]
    exact ih
  | tag before content after htag ih =>
    rw [escapeFrom_tag htag, slashesAtEnd_slashes, slashesAtEnd_tag, slashesAtEnd_tag, ih]
  | other before c rest hslash hbracket ih =>
    rw [escapeFrom, if_neg hslash, if_neg hbracket, slashesAtEnd_slashes]
    have hrest := slashesAtEnd_concat before [] hslash rest
    exact (slashesAtEnd_concat _ [] hslash _).trans (ih.trans hrest.symm)

/-- The backslashes at the end of a text once it has been escaped: a single one is doubled. -/
def endingSlashes (text : List Char) : Nat :=
  if slashesAtEnd 0 text = 1 then 2 else slashesAtEnd 0 text

/-! ### Escaped texts are inert -/

section Escaped

variable {tail : List Char} (hcloses : closesFirst tail = false)

include hcloses

theorem inert_escapeFrom (before : Nat) (text : List Char) :
    Inert 0 (escapeFrom before 0 text) tail (slashesAtEnd before text) (shownFrom before text) := by
  induction before, text using escape_induction with
  | nil before =>
    have hslashes := inert_slashes 0 before tail
    rwa [Nat.zero_add] at hslashes
  | slash before rest ih =>
    rw [escapeFrom, if_pos rfl, shownFrom, if_pos rfl]
    exact ih
  | bracket before rest hnone ih =>
    rw [escapeFrom, if_neg (by decide), if_pos rfl, hnone, shownFrom, if_neg (by decide),
      if_pos rfl, hnone, if_neg (by decide), List.append_cons (slashes (before - 1))]
    dsimp only
    refine Inert.after_slashes ?_
    rw [Nat.zero_add]
    exact (inert_bracket (tag?_escapeFrom_none hcloses hnone)).append ih
  | tag before content after htag ih =>
    -- The backslashes before a tag have been doubled and one added, so half of them are those of
    -- the text.
    have hhalf : (2 * before + 1) / 2 = before := by omega
    rw [escapeFrom_tag htag, shownFrom_tag htag, slashesAtEnd_tag,
      ← List.append_assoc (slashes before)]
    refine Inert.after_slashes ?_
    have hliteral : Inert (2 * before + 1) (bracketed content) (escapeFrom 0 0 after ++ tail) 0
        (slashes ((2 * before + 1) / 2) ++ bracketed content) := inert_tag htag (by omega)
    rw [hhalf] at hliteral
    rw [Nat.zero_add]
    exact hliteral.append ih
  | other before c rest hslash hbracket ih =>
    have hend : slashesAtEnd before (c :: rest) = slashesAtEnd 0 rest :=
      slashesAtEnd_concat before [] hslash rest
    rw [escapeFrom, if_neg hslash, if_neg hbracket, shownFrom, if_neg hslash, if_neg hbracket, hend,
      List.append_cons (slashes before) c (shownFrom 0 rest)]
    refine Inert.after_slashes ?_
    rw [Nat.zero_add]
    exact (inert_char hslash hbracket).append ih

/-- **Escaped texts.** An escaped text adds no tag to a template, as long as what follows it does
not start like the rest of a tag. All of the text is shown but one of the backslashes before each
bracket that starts no tag, and those at its end, of which a single one counts twice. -/
theorem inert_escape (text : List Char) :
    Inert 0 (escape text) tail (endingSlashes text) (shownFrom 0 text) := by
  have hescape : escape text = if endsInOneSlash (escapeFrom 0 0 text) then
      escapeFrom 0 0 text ++ ['\\'] else escapeFrom 0 0 text := rfl
  have hone : endsInOneSlash (escapeFrom 0 0 text) = true ↔ slashesAtEnd 0 text = 1 := by
    rw [endsInOneSlash_iff, slashesAtEnd_escapeFrom]
  rw [hescape]
  unfold endingSlashes
  split
  · next hends =>
    -- A single backslash at the end of the text gets a second one.
    have hsingle := hone.mp hends
    have hslash : closesFirst (['\\'] ++ tail) = false :=
      (closesFirst_append (by decide) tail).trans hcloses
    have hescaped := inert_escapeFrom hslash 0 text
    rw [if_pos hsingle, ← List.append_nil (shownFrom 0 text)]
    rw [hsingle] at hescaped
    exact hescaped.append (inert_slashes 1 1 tail)
  · next hends =>
    rw [if_neg fun hsingle => hends (hone.mpr hsingle)]
    exact inert_escapeFrom hcloses 0 text

end Escaped

end ClipCadence.Console.Markup
