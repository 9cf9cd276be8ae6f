/-
# Which integers are too large

An integer becomes the nearest floating point number.  Past the middle between the largest number
and the next power of two that is infinity, and the middle itself goes there too, because the
significand of the largest number is odd.
-/

import FormatLauncher.Binary64
import Mathlib.Data.Rat.Init
import Mathlib.Order.Lattice
import Mathlib.Tactic.Ring

namespace FormatLauncher.Binary64

/-- The least magnitude of an integer that is rounded to infinity: the middle between the largest
number and `2 ^ 1024`. -/
def leastOverflowing : Nat := (2 ^ 54 - 1) * 2 ^ 970

/-- An infinity has the last pattern of exponent bits, and no significand bits. -/
theorem isInfinite_iff {x : Binary64} :
    x.isInfinite = true ↔ x.bits.toNat / hiddenWeight % exponentPatterns = 2047 ∧
      x.bits.toNat % hiddenWeight = 0 := by
  unfold isInfinite view
  dsimp only
  by_cases hbiased : x.bits.toNat / hiddenWeight % exponentPatterns = 2047
  · by_cases hfraction : x.bits.toNat % hiddenWeight = 0
    · simp [hbiased, hfraction]
    · simp [hbiased, hfraction]
  · by_cases hzero : x.bits.toNat / hiddenWeight % exponentPatterns = 0
    · simp [hzero]
    · simp [hbiased, hzero]

theorem isInfinite_ofMagnitude_iff (negative : Bool) {magnitude : Nat}
    (h : magnitude ≤ infiniteMagnitude) :
    (ofMagnitude negative magnitude).isInfinite = true ↔ magnitude = infiniteMagnitude := by
  have hsign : signWeight = 2 ^ 63 := rfl
  have hhidden : hiddenWeight = 2 ^ 52 := rfl
  have hpatterns : exponentPatterns = 2 ^ 11 := rfl
  have hinfinite : infiniteMagnitude = 2047 * 2 ^ 52 := rfl
  have hbits : (ofMagnitude negative magnitude).bits.toNat =
      if negative then 2 ^ 63 + magnitude else magnitude := by
    rw [ofMagnitude, UInt64.toNat_ofNat', hsign, Nat.mod_eq_of_lt]
    cases negative <;> simp <;> omega
  rw [isInfinite_iff, hbits, hhidden, hpatterns]
  cases negative <;> simp <;> omega

theorem binaryExponent_one {num : Nat} (h : num ≠ 0) : binaryExponent num 1 = Nat.log2 num := by
  have hle : Nat.pow 2 (Nat.log2 num) ≤ num := Nat.log2_self_le h
  have hone : Nat.log2 1 = 0 := by decide
  simp [binaryExponent, hone]
  omega

/-! ## Rounding -/

theorem roundHalfEven_bounds (num den : Nat) :
    num / den ≤ roundHalfEven num den ∧ roundHalfEven num den ≤ num / den + 1 := by
  unfold roundHalfEven
  dsimp only
  split
  · omega
  · split <;> omega

/-- Rounding gets past an odd number from the middle on. -/
theorem succ_le_roundHalfEven_iff {num den whole : Nat} (hden : 0 < den) (hodd : whole % 2 = 1) :
    whole + 1 ≤ roundHalfEven num den ↔ (2 * whole + 1) * den ≤ 2 * num := by
  have hsplit := Nat.div_add_mod num den
  have hrest := Nat.mod_lt num hden
  have hbounds := roundHalfEven_bounds num den
  have hmiddle : (2 * whole + 1) * den = 2 * (den * whole) + den := by ring
  rw [hmiddle]
  obtain hbelow | hsame | habove := Nat.lt_trichotomy (num / den) whole
  · have hnext : den * (num / den) + den ≤ den * whole := by
      rw [← Nat.mul_succ]
      exact Nat.mul_le_mul_left den hbelow
    omega
  · unfold roundHalfEven
    rw [hsame] at hsplit ⊢
    dsimp only
    split
    · omega
    · split <;> omega
  · have hnext : den * whole + den ≤ den * (num / den) := by
      rw [← Nat.mul_succ]
      exact Nat.mul_le_mul_left den habove
    omega

/-- The significand that a positive integer is rounded to, its first bit included. -/
def significand (num : Nat) : Nat :=
  if Nat.log2 num < 52 then num * 2 ^ (52 - Nat.log2 num)
  else roundHalfEven num (2 ^ (Nat.log2 num - 52))

theorem significand_bounds {num : Nat} (h : num ≠ 0) :
    2 ^ 52 ≤ significand num ∧ significand num ≤ 2 ^ 53 := by
  have hlow := Nat.log2_self_le h
  have hhigh := Nat.lt_log2_self (n := num)
  unfold significand
  generalize Nat.log2 num = power at hlow hhigh ⊢
  split
  · have hfirst : 2 ^ power * 2 ^ (52 - power) = 2 ^ 52 := by
      rw [← Nat.pow_add]
      congr 1
      omega
    have hlast : 2 ^ (power + 1) * 2 ^ (52 - power) = 2 ^ 53 := by
      rw [← Nat.pow_add]
      congr 1
      omega
    rw [← hfirst, ← hlast]
    exact ⟨Nat.mul_le_mul_right _ hlow, Nat.mul_le_mul_right _ hhigh.le⟩
  · obtain ⟨shift, rfl⟩ : ∃ shift, power = shift + 52 := ⟨power - 52, by omega⟩
    have hfirst : 2 ^ (shift + 52) = 2 ^ 52 * 2 ^ shift := by rw [Nat.pow_add, Nat.mul_comm]
    have hlast : 2 ^ (shift + 52 + 1) = 2 ^ 53 * 2 ^ shift := by
      rw [Nat.add_assoc, Nat.pow_add, Nat.mul_comm]
    have hlow' : 2 ^ 52 ≤ num / 2 ^ shift := by
      rw [Nat.le_div_iff_mul_le (Nat.two_pow_pos shift), ← hfirst]
      exact hlow
    have hhigh' : num / 2 ^ shift < 2 ^ 53 := by
      rw [Nat.div_lt_iff_lt_mul (Nat.two_pow_pos shift), ← hlast]
      exact hhigh
    have hbounds := roundHalfEven_bounds num (2 ^ shift)
    rw [Nat.add_sub_cancel]
    omega

/-- The bits of an integer are those of its exponent and of its significand, which may carry. -/
theorem ofQuotient_one (negative : Bool) {num : Nat} (h : num ≠ 0) :
    ofQuotient negative num 1 = ofMagnitude negative
      (min ((Nat.log2 num + 1022) * hiddenWeight + significand num) infiniteMagnitude) := by
  have hexponent : max ((Nat.log2 num : Int) - 52) (-1074) = Nat.log2 num - 52 := by omega
  have hfield : ((Nat.log2 num : Int) - 52 + 1074).toNat = Nat.log2 num + 1022 := by omega
  rw [ofQuotient, if_neg h]
  dsimp only
  rw [binaryExponent_one h, hexponent, hfield, significand]
  by_cases hsmall : Nat.log2 num < 52
  · have hshift : (-((Nat.log2 num : Int) - 52)).toNat = 52 - Nat.log2 num := by omega
    rw [if_neg (by omega), if_pos hsmall, hshift]
    simp [roundHalfEven, Nat.mod_one]
  · have hshift : ((Nat.log2 num : Int) - 52).toNat = Nat.log2 num - 52 := by omega
    rw [if_pos (by omega), if_neg hsmall, hshift, Nat.one_mul]
    rfl

theorem isInfinite_ofQuotient_one_iff (negative : Bool) (num : Nat) :
    (ofQuotient negative num 1).isInfinite = true ↔ leastOverflowing ≤ num := by
  have hhidden : hiddenWeight = 2 ^ 52 := rfl
  have hinfinite : infiniteMagnitude = 2047 * 2 ^ 52 := rfl
  -- The exponent stays a variable, so that nobody computes the power.
  obtain ⟨place, hplace⟩ : ∃ place, place = 970 := ⟨970, rfl⟩
  have hleast : leastOverflowing = (2 ^ 54 - 1) * 2 ^ place := by rw [hplace, leastOverflowing]
  have hunit := Nat.two_pow_pos place
  by_cases hzero : num = 0
  · subst hzero
    rw [ofQuotient, if_pos rfl, zero, isInfinite_ofMagnitude_iff negative (Nat.zero_le _),
      hinfinite, hleast]
    omega
  · have hlow := Nat.log2_self_le hzero
    have hhigh := Nat.lt_log2_self (n := num)
    have hbounds := significand_bounds hzero
    rw [ofQuotient_one negative hzero,
      isInfinite_ofMagnitude_iff negative (Nat.min_le_right _ _), min_eq_right_iff, hinfinite,
      hhidden, hleast]
    clear hleast
    obtain hless | hsame | hmore := Nat.lt_trichotomy (Nat.log2 num) (place + 53)
    · have hbound : num < 2 ^ 53 * 2 ^ place := by
        rw [← Nat.pow_add]
        exact Nat.lt_of_lt_of_le hhigh (Nat.pow_le_pow_right (by decide) (by omega))
      omega
    · -- Only here it depends on the significand: it has to be rounded up to the next power.
      have hmiddle : 2 ^ 53 - 1 + 1 ≤ roundHalfEven num (2 ^ (place + 1)) ↔
          (2 * (2 ^ 53 - 1) + 1) * 2 ^ (place + 1) ≤ 2 * num :=
        succ_le_roundHalfEven_iff (Nat.two_pow_pos (place + 1)) (by decide)
      have hkept : place + 53 - 52 = place + 1 := by omega
      rw [significand, hsame, if_neg (by omega), hkept] at hbounds ⊢
      generalize roundHalfEven num (2 ^ (place + 1)) = rounded at hmiddle hbounds ⊢
      rw [pow_succ] at hmiddle
      constructor
      · intro h
        have hreaches := hmiddle.mp (by omega)
        omega
      · intro h
        have hreaches := hmiddle.mpr (by omega)
        omega
    · have hbound : 2 ^ 54 * 2 ^ place ≤ num := by
        rw [← Nat.pow_add]
        exact Nat.le_trans (Nat.pow_le_pow_right (by decide) (by omega)) hlow
      omega

/-- An integer is too large for a floating point number from the middle past the largest number
on. -/
theorem isInfinite_ofInt_iff {n : Int} :
    (ofInt n).isInfinite = true ↔ leastOverflowing ≤ n.natAbs := by
  rw [ofInt, ofRat, Rat.num_intCast, Rat.den_intCast, isInfinite_ofQuotient_one_iff]

end FormatLauncher.Binary64
