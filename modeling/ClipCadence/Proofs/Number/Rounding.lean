import Mathlib
import ClipCadence.Number.Binary64

/-!
Rounding to a double. The result depends on the ratio alone, not on how it is written as a fraction;
it is a double, a multiple of the distance between the doubles of its magnitude; and a ratio that is
a double already is not changed. For decimals: zeros at the end of the digits may be traded for the
exponent.

Main statements: `ofRatio_eq_finite`, `isDouble_ofRatio` and `ofDecimal_shift`.
-/

namespace ClipCadence.Number

theorem roundDiv_mul_mul {factor : Nat} (h : 0 < factor) (num den : Nat) :
    roundDiv (factor * num) (factor * den) = roundDiv num den := by
  have hless (a b : Nat) : 2 * (factor * a) < factor * b ↔ 2 * a < b := by
    rw [Nat.mul_left_comm, Nat.mul_lt_mul_left h]
  have hmore (a b : Nat) : factor * b < 2 * (factor * a) ↔ b < 2 * a := by
    rw [Nat.mul_left_comm, Nat.mul_lt_mul_left h]
  simp only [roundDiv, Nat.mul_div_mul_left _ _ h, Nat.mul_mod_mul_left, hless, hmore]

theorem roundDiv_le (num den : Nat) : roundDiv num den ≤ num / den + 1 := by
  unfold roundDiv
  dsimp only
  split
  · omega
  · split <;> omega

namespace Binary64

/-! ### Doubles -/

/-- The distance between neighbouring doubles of a magnitude. -/
def grain (units : Nat) : Nat := 2 ^ (units.log2 - 52)

/-- Whether a number has at most 53 significant bits and is not too large. -/
inductive IsDouble : Binary64 → Prop
  | finite {negative : Bool} {units : Nat} (small : units < limit) (whole : grain units ∣ units) :
    IsDouble (.finite negative units)
  | infinite {negative : Bool} : IsDouble (.infinite negative)
  | nan : IsDouble .nan

theorem grain_pos (units : Nat) : 0 < grain units := Nat.two_pow_pos _

theorem limit_pos : 0 < limit := by
  unfold limit
  generalize 2098 = places
  exact Nat.two_pow_pos places

/-- A magnitude with at most 53 significant bits is a multiple of its grain. -/
theorem grain_dvd_mul {bits place : Nat} (h : bits ≤ 2 ^ 53) :
    grain (bits * 2 ^ place) ∣ bits * 2 ^ place := by
  rcases Nat.eq_zero_or_pos bits with rfl | hpos
  · simp
  have hunits : bits * 2 ^ place ≠ 0 := by positivity
  rcases Nat.lt_or_eq_of_le h with hless | rfl
  · have hlog : (bits * 2 ^ place).log2 < 53 + place := by
      rw [Nat.log2_lt hunits, pow_add]
      exact Nat.mul_lt_mul_of_pos_right hless (Nat.two_pow_pos place)
    exact Dvd.dvd.mul_left (pow_dvd_pow 2 (by omega)) bits
  · rw [← pow_add, grain, Nat.log2_two_pow]
    exact pow_dvd_pow 2 (by omega)

/-! ### Rounding a ratio -/

variable {num den units : Nat}

theorem roundUnits_mul_mul {factor : Nat} (h : 0 < factor) (num den : Nat) :
    roundUnits (factor * num) (factor * den) = roundUnits num den := by
  unfold roundUnits
  dsimp only
  rw [Nat.mul_assoc, Nat.mul_div_mul_left _ _ h, Nat.mul_assoc, roundDiv_mul_mul h]

/-- Rounding sees the ratio, not the fraction. -/
theorem roundUnits_congr {num' den' : Nat} (hden : 0 < den) (hden' : 0 < den')
    (h : num * den' = num' * den) : roundUnits num den = roundUnits num' den' := by
  calc roundUnits num den
      = roundUnits (den' * num) (den' * den) := (roundUnits_mul_mul hden' num den).symm
    _ = roundUnits (den * num') (den * den') := by
        rw [Nat.mul_comm den' num, h, Nat.mul_comm num' den, Nat.mul_comm den' den]
    _ = roundUnits num' den' := roundUnits_mul_mul hden num' den'

theorem ofRatio_congr {num' den' : Nat} (hden : 0 < den) (hden' : 0 < den')
    (h : num * den' = num' * den) (negative : Bool) :
    ofRatio negative num den = ofRatio negative num' den' := by
  rw [ofRatio, ofRatio, roundUnits_congr hden hden' h]

/-- A ratio that is a double is rounded to itself. -/
theorem ofRatio_eq_finite (hden : 0 < den) (h : num * unit = units * den)
    (hlimit : units < limit) (hwhole : grain units ∣ units) (negative : Bool) :
    ofRatio negative num den = .finite negative units := by
  obtain ⟨bits, hbits⟩ := hwhole
  have hround : roundUnits num den = units := by
    unfold roundUnits
    dsimp only
    rw [h, Nat.mul_div_cancel _ hden]
    show roundDiv (units * den) (den * grain units) * grain units = units
    have hscaled : units * den = bits * (den * grain units) := by
      calc units * den = grain units * bits * den := by rw [← hbits]
        _ = bits * (den * grain units) := by ring
    rw [hscaled, roundDiv_mul bits (Nat.mul_pos hden (grain_pos units)), Nat.mul_comm, ← hbits]
  rw [ofRatio, hround, if_pos hlimit]

/-- The sign stands apart from the magnitude. -/
theorem ofRatio_cases (num den : Nat) :
    (roundUnits num den < limit ∧
        ∀ negative, ofRatio negative num den = .finite negative (roundUnits num den)) ∨
      ∀ negative, ofRatio negative num den = .infinite negative := by
  cases Nat.decLt (roundUnits num den) limit with
  | isTrue hlimit => exact .inl ⟨hlimit, fun negative => by rw [ofRatio, if_pos hlimit]⟩
  | isFalse hlimit => exact .inr fun negative => by rw [ofRatio, if_neg hlimit]

theorem grain_dvd_roundUnits (num den : Nat) : grain (roundUnits num den) ∣ roundUnits num den := by
  unfold roundUnits
  dsimp only
  generalize num * unit = scaled
  refine grain_dvd_mul ?_
  -- The step leaves at most 53 bits, and rounding up adds one only to the largest of them.
  have hstep : scaled / (den * 2 ^ ((scaled / den).log2 - 52)) < 2 ^ 53 := by
    rw [← Nat.div_div_eq_div_mul, Nat.div_lt_iff_lt_mul (Nat.two_pow_pos _), ← pow_add]
    exact lt_of_lt_of_le Nat.lt_log2_self (Nat.pow_le_pow_right (by decide) (by omega))
  exact (roundDiv_le _ _).trans hstep

theorem isDouble_ofRatio (negative : Bool) (num den : Nat) :
    IsDouble (ofRatio negative num den) := by
  obtain ⟨hlimit, hfinite⟩ | hinfinite := ofRatio_cases num den
  · rw [hfinite]
    exact .finite hlimit (grain_dvd_roundUnits num den)
  · rw [hinfinite]
    exact .infinite

theorem isDouble_ofNat (n : Nat) : IsDouble (ofNat n) := isDouble_ofRatio false n 1

theorem ofRatio_signed (h : ofRatio false num den = .finite false units) (negative : Bool) :
    ofRatio negative num den = .finite negative units := by
  obtain ⟨-, hfinite⟩ | hinfinite := ofRatio_cases num den
  · rw [hfinite] at h ⊢
    rw [(Binary64.finite.inj h).2]
  · cases (hinfinite false).symm.trans h

/-! ### Decimals -/

theorem decimalLength_le_iff {n places : Nat} (h : 0 < places) :
    decimalLength n ≤ places ↔ n < 10 ^ places :=
  Nat.length_toDigits_le_iff (by decide) h

theorem decimalLength_mul_pow {n : Nat} (h : 0 < n) (zeros : Nat) :
    decimalLength (n * 10 ^ zeros) = decimalLength n + zeros := by
  induction zeros with
  | zero => simp
  | succ zeros ih =>
    have hlast : Nat.toDigits 10 (n * 10 ^ zeros) ++ Nat.toDigits 10 0 =
        Nat.toDigits 10 (10 * (n * 10 ^ zeros) + 0) :=
      Nat.toDigits_append_toDigits (by decide) (by positivity) (by decide)
    have hlength := congrArg List.length hlast
    rw [List.length_append, Nat.toDigits_zero, List.length_singleton] at hlength
    rw [pow_succ, ← Nat.mul_assoc, Nat.mul_comm _ 10, ← Nat.add_assoc, ← ih]
    exact hlength.symm

section Decimals

variable {digits : Nat} {exponent : Int}

/-- Within the bounds, a decimal is a ratio of which one side is a power of ten. -/
theorem ofDecimal_eq_ofRatio (hdigits : digits ≠ 0)
    (hlow : -400 ≤ decimalLength digits + exponent)
    (hhigh : decimalLength digits + exponent ≤ 400) (negative : Bool) :
    ofDecimal negative digits exponent =
      ofRatio negative (digits * 10 ^ exponent.toNat) (10 ^ (-exponent).toNat) := by
  rw [ofDecimal, if_neg (by omega), if_neg (by omega)]
  split
  · have hzero : (-exponent).toNat = 0 := by omega
    rw [hzero]
    rfl
  · have hzero : exponent.toNat = 0 := by omega
    rw [hzero, pow_zero, Nat.mul_one]
    rfl

theorem ofDecimal_of_small (h : decimalLength digits + exponent < -400) (negative : Bool) :
    ofDecimal negative digits exponent = .finite negative 0 := by
  rw [ofDecimal, if_pos (.inr h)]

theorem ofDecimal_of_large (hdigits : digits ≠ 0) (h : 400 < decimalLength digits + exponent)
    (negative : Bool) : ofDecimal negative digits exponent = .infinite negative := by
  rw [ofDecimal, if_neg (by omega), if_pos h]

theorem ofDecimal_zero (negative : Bool) (exponent : Int) :
    ofDecimal negative 0 exponent = .finite negative 0 := by
  rw [ofDecimal, if_pos (.inl rfl)]

/-- Zeros at the end of the digits count as much as the exponent. -/
theorem ofDecimal_shift (negative : Bool) (digits zeros : Nat) (exponent : Int) :
    ofDecimal negative (digits * 10 ^ zeros) (exponent - zeros) =
      ofDecimal negative digits exponent := by
  rcases Nat.eq_zero_or_pos digits with rfl | hpos
  · rw [Nat.zero_mul, ofDecimal_zero, ofDecimal_zero]
  have hlength := decimalLength_mul_pow hpos zeros
  have hdigits : digits * 10 ^ zeros ≠ 0 := by positivity
  by_cases hlow : decimalLength digits + exponent < -400
  · rw [ofDecimal_of_small hlow, ofDecimal_of_small (by omega)]
  by_cases hhigh : 400 < decimalLength digits + exponent
  · rw [ofDecimal_of_large (by omega) hhigh, ofDecimal_of_large hdigits (by omega)]
  rw [ofDecimal_eq_ofRatio hdigits (by omega) (by omega),
    ofDecimal_eq_ofRatio (by omega) (by omega) (by omega)]
  apply ofRatio_congr (by positivity) (by positivity)
  have hexponents : zeros + (exponent - zeros).toNat + (-exponent).toNat =
      exponent.toNat + (-(exponent - zeros)).toNat := by omega
  calc digits * 10 ^ zeros * 10 ^ (exponent - zeros).toNat * 10 ^ (-exponent).toNat
      = digits * 10 ^ (zeros + (exponent - zeros).toNat + (-exponent).toNat) := by
        rw [pow_add, pow_add]
        ring
    _ = digits * 10 ^ exponent.toNat * 10 ^ (-(exponent - zeros)).toNat := by
        rw [hexponents, pow_add]
        ring

/-- However large or small a decimal is, the sign stands apart. -/
theorem ofDecimal_cases (digits : Nat) (exponent : Int) :
    (∀ negative, ofDecimal negative digits exponent = .finite negative 0) ∨
      (∀ negative, ofDecimal negative digits exponent = .infinite negative) ∨
      ∃ num den, ∀ negative, ofDecimal negative digits exponent = ofRatio negative num den := by
  by_cases hdigits : digits = 0
  · exact .inl fun negative => hdigits ▸ ofDecimal_zero negative exponent
  by_cases hlow : decimalLength digits + exponent < -400
  · exact .inl (ofDecimal_of_small hlow)
  by_cases hhigh : 400 < decimalLength digits + exponent
  · exact .inr (.inl (ofDecimal_of_large hdigits hhigh))
  · exact .inr (.inr ⟨_, _, ofDecimal_eq_ofRatio hdigits (by omega) (by omega)⟩)

theorem isDouble_zero (negative : Bool) : IsDouble (.finite negative 0) :=
  .finite limit_pos (Nat.dvd_zero _)

theorem isDouble_ofDecimal (negative : Bool) (digits : Nat) (exponent : Int) :
    IsDouble (ofDecimal negative digits exponent) := by
  obtain hzero | hinfinite | ⟨num, den, hratio⟩ := ofDecimal_cases digits exponent
  · rw [hzero]
    exact isDouble_zero negative
  · rw [hinfinite]
    exact .infinite
  · rw [hratio]
    exact isDouble_ofRatio negative num den

theorem ofDecimal_signed {units : Nat} (h : ofDecimal false digits exponent = .finite false units)
    (negative : Bool) : ofDecimal negative digits exponent = .finite negative units := by
  obtain hzero | hinfinite | ⟨num, den, hratio⟩ := ofDecimal_cases digits exponent
  · rw [hzero] at h ⊢
    rw [(Binary64.finite.inj h).2]
  · cases (hinfinite false).symm.trans h
  · exact (hratio negative).trans (ofRatio_signed ((hratio false).symm.trans h) negative)

end Decimals

end Binary64

end ClipCadence.Number
