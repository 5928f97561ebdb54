import ClipCadence.Number.Decimal
import ClipCadence.Proofs.Number.Rounding

/-!
The shortest decimal of a double reads back as it. The search only takes decimals that do; where it
finds none, all the digits are taken, which are the double itself; and the zeros that are dropped at
the end are made up for by the exponent.

Main statement: `ofDecimal_shortest`.
-/

namespace ClipCadence.Number.Decimal

open Binary64

variable {units : Nat}

theorem ofDecimal_trimZeros (negative : Bool) (fuel : Nat) (d : Decimal) :
    ofDecimal negative (trimZeros fuel d).digits (trimZeros fuel d).exponent =
      ofDecimal negative d.digits d.exponent := by
  induction fuel generalizing d with
  | zero => rfl
  | succ fuel ih =>
    rw [trimZeros]
    split
    · next hzero =>
      have hdigits : d.digits = d.digits / 10 * 10 ^ 1 := by omega
      have hexponent : d.exponent = d.exponent + 1 - (1 : Nat) := by omega
      rw [ih]
      conv_rhs => rw [hdigits, hexponent, ofDecimal_shift]
    · rfl

/-- A decimal is the same without the zeros at its end. -/
theorem ofDecimal_normal (negative : Bool) (d : Decimal) :
    ofDecimal negative d.normal.digits d.normal.exponent =
      ofDecimal negative d.digits d.exponent :=
  ofDecimal_trimZeros negative _ d

/-- All the digits of a double are neither too many nor too few to be read. -/
theorem exact_length (hpos : units ≠ 0) (hlimit : units < limit) :
    674 ≤ decimalLength (exact units).digits ∧ decimalLength (exact units).digits ≤ 1474 := by
  have hdigits : (exact units).digits = units * Nat.pow 5 1074 := rfl
  have hfew : 10 ^ 673 ≤ Nat.pow 5 1074 := by decide +kernel
  have hmany : limit * Nat.pow 5 1074 ≤ 10 ^ 1474 := by decide +kernel
  rw [hdigits]
  generalize Nat.pow 5 1074 = fives at hfew hmany ⊢
  have hleast : fives ≤ units * fives := Nat.le_mul_of_pos_left fives (by omega)
  have hmost : units * fives < limit * fives :=
    Nat.mul_lt_mul_of_pos_right hlimit (lt_of_lt_of_le (by positivity) hfew)
  constructor
  · by_contra hshort
    have hless : units * fives < 10 ^ 673 := (decimalLength_le_iff (by decide)).mp (by omega)
    exact absurd (hfew.trans hleast) (Nat.not_le.mpr hless)
  · exact (decimalLength_le_iff (by decide)).mpr (lt_of_lt_of_le hmost hmany)

theorem fives_mul_unit : Nat.pow 5 1074 * unit = 10 ^ 1074 := by
  unfold unit
  generalize 1074 = places
  exact (Nat.mul_pow 5 2 places).symm

theorem ofDecimal_exact (hpos : units ≠ 0) (hlimit : units < limit) (hwhole : grain units ∣ units) :
    ofDecimal false (exact units).digits (exact units).exponent = .finite false units := by
  obtain ⟨hlow, hhigh⟩ := exact_length hpos hlimit
  have hexponent : (exact units).exponent = -1074 := rfl
  have hdigits : (exact units).digits ≠ 0 := by
    intro hzero
    rw [hzero] at hlow
    exact absurd hlow (by decide)
  rw [hexponent, ofDecimal_eq_ofRatio hdigits (by omega) (by omega)]
  apply ofRatio_eq_finite (by positivity) _ hlimit hwhole
  have hplaces : (-1074 : Int).toNat = 0 := rfl
  have hback : (-(-1074 : Int)).toNat = 1074 := rfl
  rw [hplaces, hback, pow_zero, Nat.mul_one, exact, Nat.mul_assoc, fives_mul_unit]

/-! ### The search -/

theorem readsBack_iff {d : Decimal} :
    readsBack units d = true ↔ ofDecimal false d.digits d.exponent = .finite false units := by
  simp [readsBack]

theorem readsBack_of_atPlace? {place : Int} {d : Decimal} (h : atPlace? units place = some d) :
    readsBack units d = true :=
  List.find?_some h

/-- The shortest decimal of a double is that double when it is read. -/
theorem ofDecimal_shortest (hpos : units ≠ 0) (hlimit : units < limit)
    (hwhole : grain units ∣ units) (negative : Bool) :
    ofDecimal negative (shortest units).digits (shortest units).exponent =
      .finite negative units := by
  apply ofDecimal_signed
  rw [shortest, ofDecimal_normal]
  cases hfound : (List.range 17).findSome? fun extra : Nat =>
      atPlace? units (leadingPlace units unit - extra) with
  | none => exact ofDecimal_exact hpos hlimit hwhole
  | some d =>
    obtain ⟨extra, -, hd⟩ := List.exists_of_findSome?_eq_some hfound
    exact readsBack_iff.mp (readsBack_of_atPlace? hd)

theorem shortest_digits_ne_zero (hpos : units ≠ 0) (hlimit : units < limit)
    (hwhole : grain units ∣ units) : (shortest units).digits ≠ 0 := by
  intro hzero
  have hreads := ofDecimal_shortest hpos hlimit hwhole false
  rw [hzero, ofDecimal_zero] at hreads
  exact hpos (Binary64.finite.inj hreads).2.symm

end ClipCadence.Number.Decimal
