import ClipCadence.Number.Argument
import ClipCadence.Proofs.Number.Characters
import ClipCadence.Proofs.Number.Digits
import ClipCadence.Proofs.Text.Trimming

/-!
Integers on a command line. What is written of an integer is read as that integer, with any white
space around it, if it has no more digits than are read at all.

Main statement: `integer?_write`.
-/

namespace ClipCadence.Number.Argument

open Text Numeral

/-! ### Characters of numbers -/

theorem isNumeric_lt {c : Char} (h : isNumeric c = true) : c.toNat < 128 := by
  rcases Bool.or_eq_true_iff.mp h with hdigit | hother
  · simp only [Char.isDigit, Bool.and_eq_true, decide_eq_true_eq] at hdigit
    have hnine : c.toNat ≤ 57 := hdigit.2
    omega
  · have hmem : c ∈ ['+', '-', '.', 'e'] := by simpa using hother
    simp only [List.mem_cons, List.not_mem_nil, or_false] at hmem
    obtain rfl | rfl | rfl | rfl := hmem <;> decide

/-- The characters of a number are read as they are. -/
theorem numeric_plain {c : Char} (h : isNumeric c = true) :
    isWhiteSpace c = false ∧ plainDigit c = c ∧ c ≠ '_' := by
  have hall : ∀ n < 128, isNumeric (Char.ofNat n) = true →
      isWhiteSpace (Char.ofNat n) = false ∧ plainDigit (Char.ofNat n) = Char.ofNat n ∧
        Char.ofNat n ≠ '_' := by
    decide +kernel
  have hsame := hall c.toNat (isNumeric_lt h)
  rw [Char.ofNat_toNat] at hsame
  exact hsame h

theorem ungroupFrom?_of_numeric {text : List Char} (h : Numeric text) (afterDigit : Bool) :
    ungroupFrom? afterDigit text = some text := by
  induction text generalizing afterDigit with
  | nil => rfl
  | cons c rest ih =>
    obtain ⟨hfirst, hrest⟩ := numeric_cons.mp h
    rw [ungroupFrom?, if_neg (numeric_plain hfirst).2.2, ih hrest]
    rfl

section Around

variable {front text back : List Char} (hfront : ∀ c ∈ front, isWhiteSpace c = true)
  (htext : Numeric text) (hback : ∀ c ∈ back, isWhiteSpace c = true)

include hfront htext hback

/-- White space around a number is no part of it. -/
theorem plain?_around : plain? (front ++ text ++ back) = some text := by
  have htrimmed : Trimmed isWhiteSpace (front ++ text ++ back) text :=
    { around := ⟨front, back, rfl, hfront, hback⟩
      head_not := fun c hc => (numeric_plain (htext c (List.mem_of_head? hc))).1
      last_not := fun c hc => (numeric_plain (htext c (List.mem_of_getLast? hc))).1 }
  have hmap : text.map plainDigit = text :=
    List.map_congr_left (fun c hc => (numeric_plain (htext c hc)).2.1) |>.trans (List.map_id text)
  rw [plain?, ← htrimmed.eq_trimBy, hmap, ungroupFrom?_of_numeric htext]

end Around

theorem plainInteger?_write {n : Int}
    (h : (Nat.toDigits 10 n.natAbs).length ≤ maxIntLength) : plainInteger? (write n) = some n := by
  have hunsign : unsign (write n) = (decide (n < 0), Nat.toDigits 10 n.natAbs) := by
    unfold write
    by_cases hnegative : n < 0
    · simp [hnegative, unsign]
    · rw [if_neg hnegative, decide_eq_false hnegative]
      obtain ⟨first, rest, hdigits, hfirst⟩ := (whole_toDigits n.natAbs).exists_cons
      rw [hdigits, unsign]
      · exact fun rest h => ne_of_isDigit hfirst rfl (List.cons.inj h).1
      · exact fun rest h => ne_of_isDigit hfirst rfl (List.cons.inj h).1
  have hdigits : (Nat.toDigits 10 n.natAbs).all Char.isDigit = true :=
    List.all_eq_true.mpr (digits_toDigits n.natAbs)
  have hempty : (Nat.toDigits 10 n.natAbs).isEmpty = false := by
    simp [Nat.toDigits_ne_nil]
  have hsigned : signedInt (decide (n < 0)) n.natAbs = n := by
    simp only [signedInt, decide_eq_true_eq]
    split <;> omega
  rw [plainInteger?, hunsign]
  dsimp only
  rw [hempty, hdigits, value_toDigits, hsigned]
  simp [Nat.not_lt.mpr h]

/-- What is written of an integer is read as that integer. -/
theorem integer?_write {front back : List Char} (hfront : ∀ c ∈ front, isWhiteSpace c = true)
    (hback : ∀ c ∈ back, isWhiteSpace c = true) {n : Int}
    (h : (Nat.toDigits 10 n.natAbs).length ≤ maxIntLength) :
    integer? (front ++ write n ++ back) = some n := by
  rw [integer?, plain?_around hfront (numeric_write n) hback]
  exact plainInteger?_write h

/-- Digits of another script, in a group. -/
example : integer? " +1_٣\n".toList = some 13 ∧ integer? "1__3".toList = none ∧
    integer? "5.0".toList = none ∧ integer? "0-5".toList = none := by
  decide +kernel

end ClipCadence.Number.Argument
