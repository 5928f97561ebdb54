import Mathlib
import ClipCadence.Number.Decimal
import ClipCadence.Number.Numeral

/-!
Decimal digits: which of them a number is written with, and the number that they stand for. A number
is written without a zero in front, unless it is zero; zeros in front do not count, those at the end
count as a power of ten; and a number is below the power of ten that its digits are counted by.

Main statements: `whole_toDigits`, `value_toDigits` and `length_toDigits_value`.
-/

namespace ClipCadence.Number.Numeral

def Digits (text : List Char) : Prop := ∀ c ∈ text, c.isDigit = true

theorem ne_of_isDigit {c other : Char} (h : c.isDigit = true) (hother : other.isDigit = false) :
    c ≠ other := by
  rintro rfl
  cases h.symm.trans hother

/-- Digits without a zero in front, or a lone zero. -/
inductive Whole : List Char → Prop
  | zero : Whole ['0']
  | positive {first : Char} {rest : List Char} (hfirst : first ≠ '0')
    (hdigits : Digits (first :: rest)) : Whole (first :: rest)

theorem digits_toDigits (n : Nat) : Digits (Nat.toDigits 10 n) :=
  fun _ => Nat.isDigit_of_mem_toDigits (by decide) (by decide)

theorem digits_zeros (n : Nat) : Digits (Layout.zeros n) := by
  intro c hc
  rw [List.eq_of_mem_replicate hc]
  rfl

theorem Digits.append {text other : List Char} (h : Digits text) (hother : Digits other) :
    Digits (text ++ other) :=
  List.forall_mem_append.mpr ⟨h, hother⟩

theorem Whole.digits {text : List Char} (h : Whole text) : Digits text := by
  cases h with
  | zero => simp [Digits]
  | positive _ hdigits => exact hdigits

theorem Whole.exists_cons {text : List Char} (h : Whole text) :
    ∃ first rest, text = first :: rest ∧ first.isDigit = true := by
  have hdigits := h.digits
  cases h with
  | zero => exact ⟨_, _, rfl, rfl⟩
  | positive => exact ⟨_, _, rfl, hdigits _ List.mem_cons_self⟩

theorem digitChar_ne_zero {n : Nat} (h : n < 10) (hpos : n ≠ 0) : n.digitChar ≠ '0' := by
  decide +revert

/-- The digits of a positive number start with one that is not zero. -/
theorem toDigits_cons {n : Nat} (h : n ≠ 0) :
    ∃ first rest, Nat.toDigits 10 n = first :: rest ∧ first ≠ '0' := by
  induction n using Nat.strongRecOn with
  | ind n ih =>
    rw [Nat.toDigits_eq_if (by decide)]
    split
    · next hsmall => exact ⟨_, _, rfl, digitChar_ne_zero hsmall h⟩
    · next hlarge =>
      obtain ⟨first, rest, hdigits, hfirst⟩ := ih (n / 10) (by omega) (by omega)
      exact ⟨first, _, by rw [hdigits, List.cons_append], hfirst⟩

theorem whole_append {n : Nat} (h : n ≠ 0) {text : List Char} (htext : Digits text) :
    Whole (Nat.toDigits 10 n ++ text) := by
  obtain ⟨first, rest, hdigits, hfirst⟩ := toDigits_cons h
  have hall := (digits_toDigits n).append htext
  rw [hdigits] at hall ⊢
  exact .positive hfirst hall

theorem whole_toDigits (n : Nat) : Whole (Nat.toDigits 10 n) := by
  by_cases hzero : n = 0
  · subst hzero
    exact .zero
  · have happend := @whole_append n hzero [] (by simp [Digits])
    rwa [List.append_nil] at happend

theorem whole_take {n : Nat} (h : n ≠ 0) (count : Nat) :
    Whole ((Nat.toDigits 10 n).take (count + 1)) := by
  obtain ⟨first, rest, hdigits, hfirst⟩ := toDigits_cons h
  have hall : Digits ((Nat.toDigits 10 n).take (count + 1)) :=
    fun c hc => digits_toDigits n c (List.mem_of_mem_take hc)
  rw [hdigits] at hall ⊢
  exact .positive hfirst hall

/-! ### The value of digits -/

@[simp] theorem value_toDigits (n : Nat) : value (Nat.toDigits 10 n) = n :=
  Nat.ofDigitChars_ten_toDigits

@[simp] theorem value_zeros_append (n : Nat) (text : List Char) :
    value (Layout.zeros n ++ text) = value text := by
  show Nat.ofDigitChars 10 (List.replicate n '0' ++ text) 0 = _
  rw [Nat.ofDigitChars_append, Nat.ofDigitChars_replicate_zero, Nat.mul_zero]
  rfl

theorem value_append_zeros (text : List Char) (n : Nat) :
    value (text ++ Layout.zeros n) = value text * 10 ^ n := by
  show Nat.ofDigitChars 10 (text ++ List.replicate n '0') 0 = _
  rw [Nat.ofDigitChars_append, Nat.ofDigitChars_replicate_zero, Nat.mul_comm]
  rfl

/-! ### The size of digits -/

theorem digitValue_le {c : Char} (h : c.isDigit = true) : digitValue c ≤ 9 := by
  simp only [Char.isDigit, Bool.and_eq_true, decide_eq_true_eq] at h
  have hnine : c.toNat ≤ 57 := h.2
  show c.toNat - 48 ≤ 9
  omega

theorem value_lt {text : List Char} (h : Digits text) : value text < 10 ^ text.length := by
  induction text with
  | nil => decide
  | cons c text ih =>
    have hfirst : value (c :: text) = 10 ^ text.length * digitValue c + value text := by
      show Nat.ofDigitChars 10 (c :: text) 0 = _
      rw [Nat.ofDigitChars_cons, Nat.ofDigitChars_eq_ofDigitChars_zero, Nat.mul_zero, Nat.zero_add]
      rfl
    have hrest : value text < 10 ^ text.length := ih fun d hd => h d (List.mem_cons_of_mem c hd)
    have hdigit : 10 ^ text.length * digitValue c ≤ 10 ^ text.length * 9 :=
      Nat.mul_le_mul_left _ (digitValue_le (h c List.mem_cons_self))
    rw [hfirst, List.length_cons, pow_succ]
    omega

/-- A number has no more digits than the text that it is read from. -/
theorem length_toDigits_value {text : List Char} {most : Nat} (h : Digits text)
    (hlength : text.length ≤ most) (hpos : 0 < most) :
    (Nat.toDigits 10 (value text)).length ≤ most := by
  rw [Nat.length_toDigits_le_iff (by decide) hpos]
  exact lt_of_lt_of_le (value_lt h) (Nat.pow_le_pow_right (by decide) hlength)

/-! ### Digits of a certain width -/

@[simp] theorem value_padded (width n : Nat) : value (padded width n) = n :=
  (value_zeros_append _ _).trans (value_toDigits n)

theorem length_padded {width n : Nat} (h : n < 10 ^ width) (hpos : 0 < width) :
    (padded width n).length = width := by
  have hdigits : (Nat.toDigits 10 n).length ≤ width :=
    (Nat.length_toDigits_le_iff (by decide) hpos).mpr h
  rw [padded, List.length_append, List.length_replicate]
  omega

/-- Digits are read up to the first character that is none. -/
theorem span_isDigit {digits : List Char} (h : Digits digits) {c : Char}
    (hc : c.isDigit = false) (rest : List Char) :
    (digits ++ c :: rest).span Char.isDigit = (digits, c :: rest) := by
  rw [List.span_eq_takeWhile_dropWhile, List.takeWhile_append_of_pos h,
    List.dropWhile_append_of_pos h]
  simp [hc]

theorem natAbs_signedInt (negative : Bool) (n : Nat) : (signedInt negative n).natAbs = n := by
  cases negative <;> simp [signedInt]

end ClipCadence.Number.Numeral
