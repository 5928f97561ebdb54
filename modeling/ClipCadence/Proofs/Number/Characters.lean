import ClipCadence.Number.Decimal
import ClipCadence.Number.Numeral

/-!
The characters of written numbers: digits, signs, the point and the mark of an exponent. So a number
stands in a text without any character that means something there, such as a bracket or the end of a
line.

Main statements: `numeric_write` for integers and `mem_double` for doubles in every layout.
-/

namespace ClipCadence.Number

def isNumeric (c : Char) : Bool := c.isDigit || ['+', '-', '.', 'e'].contains c

/-- A text of characters that stand in numbers. -/
def Numeric (text : List Char) : Prop := ∀ c ∈ text, isNumeric c = true

variable {text other : List Char}

@[simp] theorem numeric_nil : Numeric [] := fun _ h => absurd h List.not_mem_nil

@[simp] theorem numeric_cons {c : Char} : Numeric (c :: text) ↔ isNumeric c = true ∧ Numeric text :=
  List.forall_mem_cons

@[simp] theorem numeric_append : Numeric (text ++ other) ↔ Numeric text ∧ Numeric other :=
  List.forall_mem_append

theorem Numeric.notMem (h : Numeric text) {c : Char} (hc : isNumeric c = false) : c ∉ text := by
  intro hmem
  rw [h c hmem] at hc
  cases hc

theorem numeric_of_digits (h : ∀ c ∈ text, c.isDigit = true) : Numeric text := by
  intro c hc
  simp [isNumeric, h c hc]

@[simp] theorem numeric_toDigits (n : Nat) : Numeric (Nat.toDigits 10 n) :=
  numeric_of_digits fun _ => Nat.isDigit_of_mem_toDigits (by decide) (by decide)

theorem numeric_write (n : Int) : Numeric (Numeral.write n) := by
  have hminus : isNumeric '-' = true := rfl
  unfold Numeral.write
  split <;> simp [hminus]

namespace Layout

@[simp] theorem numeric_zeros (n : Nat) : Numeric (zeros n) := by
  intro c hc
  rw [List.eq_of_mem_replicate hc]
  rfl

theorem numeric_signed (h : Numeric text) (negative : Bool) : Numeric (signed negative text) := by
  have hminus : isNumeric '-' = true := rfl
  cases negative <;> simp [signed, hminus, h]

variable (layout : Layout)

theorem numeric_exponentForm (h : Numeric text) (place : Int) :
    Numeric (layout.exponentForm text place) := by
  have hpoint : isNumeric '.' = true := rfl
  have hmark : isNumeric 'e' = true := rfl
  have hsign : isNumeric (if place < 0 then '-' else '+') = true := by split <;> rfl
  unfold exponentForm
  split <;> simp_all

theorem numeric_positional (h : Numeric text) (exponent place : Int) :
    Numeric (layout.positional text exponent place) := by
  have hpoint : isNumeric '.' = true := rfl
  have hzero : isNumeric '0' = true := rfl
  have htake (n : Nat) : Numeric (text.take n) := fun c hc => h c (List.mem_of_mem_take hc)
  have hdrop (n : Nat) : Numeric (text.drop n) := fun c hc => h c (List.mem_of_mem_drop hc)
  unfold positional
  split
  · split <;> simp [h, hpoint, hzero]
  · split <;> simp [h, hpoint, hzero, htake, hdrop]

theorem numeric_decimal (d : Decimal) : Numeric (layout.decimal d) := by
  unfold decimal
  dsimp only
  split
  · exact layout.numeric_positional (numeric_toDigits _) _ _
  · exact layout.numeric_exponentForm (numeric_toDigits _) _

theorem numeric_double_finite (choose : Nat → Decimal) (negative : Bool) (units : Nat) :
    Numeric (layout.double choose (.finite negative units)) :=
  numeric_signed (layout.numeric_decimal _) negative

/-- A double is written by the characters of a number, or by one of two words. -/
theorem mem_double {choose : Nat → Decimal} {x : Binary64} {c : Char}
    (h : c ∈ layout.double choose x) :
    isNumeric c = true ∨ c ∈ layout.infinity.toList ∨ c ∈ layout.nan.toList := by
  cases x with
  | nan => exact .inr (.inr h)
  | infinite negative =>
    cases negative with
    | false => exact .inr (.inl h)
    | true =>
      rcases List.mem_cons.mp h with rfl | hword
      · exact .inl rfl
      · exact .inr (.inl hword)
  | finite negative units => exact .inl (layout.numeric_double_finite choose negative units c h)

end Layout

end ClipCadence.Number
