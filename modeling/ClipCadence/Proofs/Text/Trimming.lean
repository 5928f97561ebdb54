import ClipCadence.Text.Blank
import Mathlib.Data.List.TakeWhile

/-!
Trimmed texts. `Trimmed` says by its parts what a text is without the characters of a class at its
two ends: only such characters are gone, and none of them is left at an end.

Main statement: `trimmed_iff`, every text has one trimmed text, that of `trimBy`.
-/

namespace ClipCadence.Text

variable {p : Char → Bool} {text inner front back : List Char}

/-- `inner` is `text` without the characters of a class at its two ends. -/
structure Trimmed (p : Char → Bool) (text inner : List Char) : Prop where
  around : ∃ front back, text = front ++ inner ++ back ∧ (∀ c ∈ front, p c = true) ∧
    ∀ c ∈ back, p c = true
  head_not : ∀ c, inner.head? = some c → p c = false
  last_not : ∀ c, inner.getLast? = some c → p c = false

theorem dropWhile_append_of_head (hfront : ∀ c ∈ front, p c = true)
    (hinner : ∀ c, inner.head? = some c → p c = false) : (front ++ inner).dropWhile p = inner := by
  rw [List.dropWhile_append_of_pos hfront]
  cases inner with
  | nil => rfl
  | cons c rest => rw [List.dropWhile_cons, hinner c rfl, if_neg Bool.false_ne_true]

theorem trimmed_trimBy (p : Char → Bool) (text : List Char) : Trimmed p text (trimBy p text) where
  around := by
    let rest := text.dropWhile p
    refine ⟨text.takeWhile p, (rest.reverse.takeWhile p).reverse, ?_,
      fun c hc => List.mem_takeWhile_imp hc,
      fun c hc => List.mem_takeWhile_imp (List.mem_reverse.mp hc)⟩
    rw [List.append_assoc, trimBy, ← List.reverse_append, List.takeWhile_append_dropWhile,
      List.reverse_reverse, List.takeWhile_append_dropWhile]
  head_not _ h := head?_trimBy_not h
  last_not _ h := getLast?_trimBy_not h

theorem Trimmed.eq_trimBy (h : Trimmed p text inner) : inner = trimBy p text := by
  obtain ⟨front, back, rfl, hfront, hback⟩ := h.around
  rw [trimBy, List.append_assoc]
  cases inner with
  | nil =>
    have hall : ∀ c ∈ front ++ back, p c = true :=
      List.forall_mem_append.mpr ⟨hfront, hback⟩
    rw [List.nil_append, List.dropWhile_eq_nil_iff.mpr hall]
    rfl
  | cons first rest =>
    have hhead : ∀ c, (first :: rest ++ back).head? = some c → p c = false := h.head_not
    have hlast : ∀ c, (first :: rest).reverse.head? = some c → p c = false := by
      rw [List.head?_reverse]
      exact h.last_not
    have hback' : ∀ c ∈ back.reverse, p c = true := fun c hc => hback c (List.mem_reverse.mp hc)
    rw [dropWhile_append_of_head hfront hhead, List.reverse_append,
      dropWhile_append_of_head hback' hlast, List.reverse_reverse]

/-- Every text has one trimmed text. -/
theorem trimmed_iff : Trimmed p text inner ↔ inner = trimBy p text :=
  ⟨Trimmed.eq_trimBy, fun h => h ▸ trimmed_trimBy p text⟩

/-- A character that is not of the class is not lost. -/
theorem Trimmed.count_eq (h : Trimmed p text inner) {c : Char} (hc : p c = false) :
    inner.count c = text.count c := by
  obtain ⟨front, back, rfl, hfront, hback⟩ := h.around
  have hnot {outer : List Char} (houter : ∀ c ∈ outer, p c = true) : outer.count c = 0 :=
    List.count_eq_zero.mpr fun hmem => by simp [houter c hmem] at hc
  rw [List.count_append, List.count_append, hnot hfront, hnot hback, Nat.zero_add, Nat.add_zero]

end ClipCadence.Text
