import ClipCadence.Json.Reader
import ClipCadence.Json.Writer
import ClipCadence.Proofs.Fallible

/-!
Strings that are read as they were written. Each character is written as itself, as a short escape
or by its number, and comes back as one unit of the string. No unit of such a string is half of a
surrogate pair, so no two of them are put together.

Main statement: `string_escaped`.
-/

namespace ClipCadence.Json

open Text

/-! ### One unit -/

/-- What a character is read as. -/
inductive UnitOf (c : Char) : StringUnit → Prop
  | literal : UnitOf c (.literal c)
  | control (h : c.toNat < 0x20) : UnitOf c (.code c.toNat)

theorem joined_cons {c : Char} {first : StringUnit} (h : UnitOf c first) (rest : List StringUnit) :
    joined (first :: rest) = .char c :: joined rest := by
  cases h with
  | literal => rfl
  | control hcontrol =>
    have hhigh : isHigh c.toNat = false := by simp [isHigh]; omega
    have hlow : isLow c.toNat = false := by simp [isLow]; omega
    match rest with
    | [] | .literal d :: rest => simp [joined, glyph, hhigh, hlow]
    | .code low :: rest => simp [joined, glyph, hhigh, hlow]

section Units

variable (start at_ : Nat) {rest : List Char} {found : List StringUnit} {after : Rest}

theorem units_quote : units start ('"' :: rest) at_ = .ok ([], rest, at_ + 1) := by rw [units]

theorem units_literal {c : Char} (hquote : c ≠ '"') (hescape : c ≠ '\\')
    (hcontrol : ¬ c.toNat < 0x20) (h : units start rest (at_ + 1) = .ok (found, after)) :
    units start (c :: rest) at_ = .ok (.literal c :: found, after) := by
  rw [units, if_neg hcontrol, h]
  · rfl
  all_goals simp_all

theorem units_short {mark c : Char} (hmark : shortEscape? mark = some c)
    (h : units start rest (at_ + 2) = .ok (found, after)) :
    units start ('\\' :: mark :: rest) at_ = .ok (.literal c :: found, after) := by
  have hne : mark ≠ 'u' := by
    rintro rfl
    cases hmark
  rw [units, if_neg hne, hmark, h]
  · rfl
  · simp_all

theorem units_code {a b c d : Char} {n : Nat} (hcode : hex4? a b c d = some n) (hrest : rest ≠ [])
    (h : units start rest (at_ + 6) = .ok (found, after)) :
    units start ('\\' :: 'u' :: a :: b :: c :: d :: rest) at_ = .ok (.code n :: found, after) := by
  obtain ⟨e, rest, rfl⟩ := List.exists_cons_of_ne_nil hrest
  rw [units, hcode, h]
  rfl

end Units

/-! ### Characters -/

/-- The escape of a control character names its number. -/
theorem hex_control : ∀ n < 0x20,
    hex 4 n = ['0', '0', (n / 16).digitChar, (n % 16).digitChar] ∧
      hex4? '0' '0' (n / 16).digitChar (n % 16).digitChar = some n := by
  decide

/-- Whatever a character is written as, one unit is read from it. -/
theorem units_escaped (c : Char) : ∃ first width, UnitOf c first ∧
    ∀ (start at_ : Nat) (rest : List Char) (found : List StringUnit) (after : Rest), rest ≠ [] →
      units start rest (at_ + width) = .ok (found, after) →
        units start (Writer.escaped (.char c) ++ rest) at_ = .ok (first :: found, after) := by
  unfold Writer.escaped
  dsimp only
  split
  iterate 7
    · exact ⟨_, 2, .literal, fun start at_ rest found after _ h => units_short start at_ rfl h⟩
  · next hquote hescape _ _ _ _ _ =>
    split
    · next hcontrol =>
      obtain ⟨hhex, hcode⟩ := hex_control c.toNat hcontrol
      rw [hhex]
      exact ⟨_, 6, .control hcontrol, fun start at_ rest found after hrest h =>
        units_code start at_ hcode hrest h⟩
    · next hcontrol =>
      exact ⟨_, 1, .literal, fun start at_ rest found after _ h =>
        units_literal start at_ hquote hescape hcontrol h⟩

/-! ### Strings -/

theorem units_text (start : Nat) (text rest : List Char) (at_ : Nat) :
    ∃ found after,
      units start ((RawText.ofChars text).flatMap Writer.escaped ++ '"' :: rest) at_ =
        .ok (found, rest, after) ∧
      joined found = .ofChars text := by
  induction text generalizing at_ with
  | nil => exact ⟨[], at_ + 1, units_quote start at_, rfl⟩
  | cons c text ih =>
    obtain ⟨first, width, hfirst, hread⟩ := units_escaped c
    obtain ⟨found, after, htext, hjoined⟩ := ih (at_ + width)
    have hsource : (RawText.ofChars (c :: text)).flatMap Writer.escaped ++ '"' :: rest =
        Writer.escaped (.char c) ++
          ((RawText.ofChars text).flatMap Writer.escaped ++ '"' :: rest) := by
      rw [RawText.ofChars, List.map_cons, List.flatMap_cons, List.append_assoc]
      rfl
    refine ⟨first :: found, after, ?_, ?_⟩
    · rw [hsource]
      exact hread start at_ _ found _ (by simp) htext
    · rw [joined_cons hfirst, hjoined]
      rfl

/-- A string of characters is read as it was written. -/
theorem string_escaped (text rest : List Char) (at_ : Nat) :
    ∃ after, string ((RawText.ofChars text).flatMap Writer.escaped ++ '"' :: rest) at_ =
      .ok (.ofChars text, rest, after) := by
  obtain ⟨found, after, hfound, hjoined⟩ := units_text (at_ - 1) text rest at_
  exact ⟨after, by rw [string, hfound, ← hjoined]; rfl⟩

/-! ### Carriage returns -/

theorem return_notMem_escaped (c : Char) : '\r' ∉ Writer.escaped (.char c) := by
  have hhex : ∀ n < 0x20, '\r' ∉ hex 4 n := by decide
  unfold Writer.escaped
  dsimp only
  split
  iterate 7
    · decide
  · next _ _ _ _ _ hreturn _ =>
    split
    · next hcontrol => simpa using hhex c.toNat hcontrol
    · simpa using Ne.symm hreturn

/-- No string is written with a carriage return, which stands for itself in no string. -/
theorem return_notMem_string (chars : List Char) : '\r' ∉ Writer.string (.ofChars chars) := by
  have hbody : '\r' ∉ (RawText.ofChars chars).flatMap Writer.escaped := by
    rw [List.mem_flatMap]
    rintro ⟨glyph, hglyph, hmem⟩
    obtain ⟨c, -, rfl⟩ := List.mem_map.mp hglyph
    exact return_notMem_escaped c hmem
  simp [Writer.string, hbody]

end ClipCadence.Json
