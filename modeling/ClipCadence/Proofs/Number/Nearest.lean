import Mathlib.Data.Nat.Dist
import ClipCadence.Proofs.Number.Rounding

/-!
What it means to round. The double that a ratio is rounded to is nearest to it: no other double is
nearer. The doubles from the magnitude of the ratio on are multiples of the distance between the
doubles of that magnitude, and so is the first of them, which is nearer to the ratio than all
smaller doubles; so it is enough to compare such multiples.

Main statement: `roundUnits_isNearest`, for all ratios.
-/

namespace ClipCadence.Number

/-- No multiple of the denominator is nearer to the numerator than the one of the rounded
quotient. -/
theorem dist_roundDiv_le {den : Nat} (h : 0 < den) (num other : Nat) :
    Nat.dist (roundDiv num den * den) num ≤ Nat.dist (other * den) num := by
  have hnum : num / den * den + num % den = num := Nat.div_add_mod' num den
  have hrest : num % den < den := Nat.mod_lt num h
  have hother : other * den ≤ num / den * den ∨ num / den * den + den ≤ other * den := by
    rcases Nat.lt_or_ge (num / den) other with hlt | hle
    · exact .inr (by rw [← Nat.succ_mul]; exact Nat.mul_le_mul_right den hlt)
    · exact .inl (Nat.mul_le_mul_right den hle)
  have hround : roundDiv num den * den = num / den * den ∧ 2 * (num % den) ≤ den ∨
      roundDiv num den * den = num / den * den + den ∧ den ≤ 2 * (num % den) := by
    unfold roundDiv
    dsimp only
    split
    · exact .inl ⟨rfl, by omega⟩
    · split
      · exact .inr ⟨Nat.succ_mul .., by omega⟩
      · rcases Nat.mod_two_eq_zero_or_one (num / den) with heven | hodd
        · exact .inl ⟨by rw [heven, Nat.add_zero], by omega⟩
        · exact .inr ⟨by rw [hodd, Nat.succ_mul], by omega⟩
  simp only [Nat.dist]
  omega

namespace Binary64

/-- Whether a magnitude is that of a double, up to any size, and no other one is nearer to a
ratio. -/
structure IsNearest (units num den : Nat) : Prop where
  whole : grain units ∣ units
  nearest : ∀ other, grain other ∣ other →
    Nat.dist (units * den) (num * unit) ≤ Nat.dist (other * den) (num * unit)

theorem roundUnits_isNearest {den : Nat} (hden : 0 < den) (num : Nat) :
    IsNearest (roundUnits num den) num den where
  whole := grain_dvd_roundUnits num den
  nearest other hwhole := by
    unfold roundUnits
    dsimp only
    generalize num * unit = scaled
    obtain ⟨bits, hbits⟩ : ∃ bits, bits = (scaled / den).log2 := ⟨_, rfl⟩
    have hmultiple (m : Nat) :
        Nat.dist (roundDiv scaled (den * 2 ^ (bits - 52)) * 2 ^ (bits - 52) * den) scaled ≤
          Nat.dist (m * 2 ^ (bits - 52) * den) scaled := by
      have hround := dist_roundDiv_le (Nat.mul_pos hden (Nat.two_pow_pos (bits - 52))) scaled m
      rwa [← Nat.mul_assoc, ← Nat.mul_assoc, Nat.mul_right_comm, Nat.mul_right_comm m] at hround
    rw [← hbits]
    by_cases hfine : bits - 52 ≤ other.log2 - 52
    · obtain ⟨m, hm⟩ := (pow_dvd_pow 2 hfine).trans hwhole
      rw [hm, Nat.mul_comm (2 ^ (bits - 52)) m]
      exact hmultiple m
    · -- The other double is below the magnitude of the ratio, whose first double is a multiple too.
      have hfirst : 2 ^ 52 * 2 ^ (bits - 52) = 2 ^ bits := by
        rw [← pow_add]
        congr 1
        omega
      have hnonzero : scaled / den ≠ 0 := by
        intro hzero
        rw [hzero, Nat.log2_zero] at hbits
        omega
      have hbelow : other * den ≤ 2 ^ bits * den := by
        refine Nat.mul_le_mul_right den (Nat.lt_log2_self.le.trans ?_)
        exact Nat.pow_le_pow_right (by decide) (by omega)
      have habove : 2 ^ bits * den ≤ scaled := by
        refine (Nat.mul_le_mul_right den ?_).trans (Nat.div_mul_le_self scaled den)
        rw [hbits]
        exact Nat.log2_self_le hnonzero
      refine (hmultiple (2 ^ 52)).trans ?_
      rw [hfirst, Nat.dist_eq_sub_of_le habove, Nat.dist_eq_sub_of_le (hbelow.trans habove)]
      exact Nat.sub_le_sub_left hbelow scaled

/-- Rounding does not pass a double. -/
theorem IsNearest.le {units num den bound : Nat} (h : IsNearest units num den) (hden : 0 < den)
    (hwhole : grain bound ∣ bound) (hbound : num * unit ≤ bound * den) : units ≤ bound := by
  have hdist := h.nearest bound hwhole
  rw [Nat.dist_eq_sub_of_le_right hbound] at hdist
  refine Nat.le_of_mul_le_mul_right ?_ hden
  simp only [Nat.dist] at hdist
  omega

theorem unit_eq_pow : ∃ place, unit = 2 ^ place := by
  unfold unit
  generalize 1074 = place
  exact ⟨place, rfl⟩

theorem mul_unit_lt_limit : 2 ^ 40 * unit < limit := by
  unfold unit limit
  generalize hplace : 1074 = place
  generalize hhigh : 2098 = high
  have hlt : 40 + place < high := by omega
  exact (pow_add 2 40 place).symm.trans_lt (Nat.pow_lt_pow_right (by decide) hlt)

/-- A length of time of up to 2⁴⁰ seconds is rounded to a double, which is finite. -/
theorem ofMicros_nearest {micros : Nat} (h : micros ≤ 2 ^ 40 * 1000000) :
    ∃ units, ofMicros micros = .finite false units ∧ IsNearest units micros 1000000 := by
  have hden : 0 < 1000000 := by decide
  have hnearest := roundUnits_isNearest hden micros
  have hwhole : grain (2 ^ 40 * unit) ∣ 2 ^ 40 * unit := by
    obtain ⟨place, hunit⟩ := unit_eq_pow
    rw [hunit]
    exact grain_dvd_mul (by decide)
  have hle : roundUnits micros 1000000 ≤ 2 ^ 40 * unit := by
    refine hnearest.le hden hwhole ?_
    rw [Nat.mul_right_comm]
    exact Nat.mul_le_mul_right unit h
  have hnonnegative : ¬(micros : Int) < 0 := by omega
  refine ⟨roundUnits micros 1000000, ?_, hnearest⟩
  rw [ofMicros, ofRatio, Int.natAbs_natCast, if_pos (hle.trans_lt mul_unit_lt_limit),
    decide_eq_false hnonnegative]

end Binary64

end ClipCadence.Number
