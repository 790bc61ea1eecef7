import DeskCalculator.Proofs.Number.Grid
import Mathlib

namespace DeskCalculator.Number

def exponentField (b : UInt64) : Nat := b.toNat / 2 ^ 52 % 2 ^ 11

def fractionField (b : UInt64) : Nat := b.toNat % 2 ^ 52

/-- The sign bit is set. -/
def Negative (b : UInt64) : Prop := 2 ^ 63 ≤ b.toNat

instance (b : UInt64) : Decidable (Negative b) := inferInstanceAs (Decidable (_ ≤ _))

/-- The pattern stands for a number. -/
def Finite (b : UInt64) : Prop := exponentField b ≠ 2047

/-- The pattern stands for an infinity. -/
def Infinite (b : UInt64) : Prop := exponentField b = 2047 ∧ fractionField b = 0

/-- The fraction with the bit before it, which is set unless the exponent field is zero. -/
def significand (b : UInt64) : Nat :=
  if exponentField b = 0 then fractionField b else 2 ^ 52 + fractionField b

/-- The number without its sign; an exponent field of zero counts as one. -/
def magnitude (b : UInt64) : ℚ :=
  significand b * 2 ^ (max 1 (exponentField b) - 1075 : ℤ)

def number (b : UInt64) : ℚ := if Negative b then -magnitude b else magnitude b

/-- The pattern of the double to which a number that is not negative is rounded. No finite double
is nearer, and of two equally near ones it is the one with the even significand; it is infinite
from the middle between the largest double and the power of two that would come next. -/
structure RoundsTo (q : ℚ) (b : UInt64) : Prop where
  positive : ¬ Negative b
  kind : Finite b ∨ Infinite b
  overflow : Infinite b ↔ 2 ^ 1024 - 2 ^ 970 ≤ q
  nearest : Finite b → ∀ c, Finite c → |q - number b| ≤ |q - number c|
  even : Finite b → ∀ c, Finite c → |q - number b| = |q - number c| →
    number c = number b ∨ significand b % 2 = 0

variable {b c : UInt64}

theorem magnitude_nonneg (b : UInt64) : 0 ≤ magnitude b := by
  unfold magnitude
  positivity

/-- The bits of a pattern besides its sign. -/
def unsigned (b : UInt64) : Nat := b.toNat % 2 ^ 63

theorem unsigned_of_not_negative (h : ¬ Negative b) : unsigned b = b.toNat := by
  unfold Negative at h
  exact Nat.mod_eq_of_lt (by omega)

theorem exponentField_eq (b : UInt64) : exponentField b = unsigned b / 2 ^ 52 := by
  unfold exponentField unsigned
  omega

theorem fractionField_eq (b : UInt64) : fractionField b = unsigned b % 2 ^ 52 := by
  unfold fractionField unsigned
  omega

theorem finite_iff (b : UInt64) : Finite b ↔ unsigned b < infinityBits := by
  have hbits : unsigned b < 2 ^ 63 := Nat.mod_lt _ (by decide)
  have hinfinity : infinityBits = 2047 * 2 ^ 52 := rfl
  rw [Finite, exponentField_eq, hinfinity]
  omega

theorem infinite_iff (b : UInt64) : Infinite b ↔ unsigned b = infinityBits := by
  have hinfinity : infinityBits = 2047 * 2 ^ 52 := rfl
  rw [Infinite, exponentField_eq, fractionField_eq, hinfinity]
  omega

/-- Patterns and their significands are even together. -/
theorem significand_mod_two (b : UInt64) : significand b % 2 = unsigned b % 2 := by
  unfold significand
  rw [fractionField_eq]
  split_ifs <;> omega

theorem cast_unitsInOne : (unitsInOne : ℚ) = 2 ^ 1074 := by
  unfold unitsInOne
  generalize 1074 = k
  exact Nat.cast_pow 2 k

theorem unitsInOne_pos : (0 : ℚ) < unitsInOne := by
  rw [cast_unitsInOne]
  positivity

theorem unitsOf_unsigned (b : UInt64) :
    unitsOf (unsigned b) = significand b * 2 ^ (max 1 (exponentField b) - 1) := by
  unfold significand
  rw [fractionField_eq, exponentField_eq]
  split_ifs with h
  · rw [unitsOf_of_field_zero h, h]
    simp
    omega
  · have hmax : max 1 (unsigned b / 2 ^ 52) = unsigned b / 2 ^ 52 := by omega
    rw [unitsOf_of_field_ne_zero h, hmax]

/-- The magnitude of a pattern, counted in the smallest positive doubles. -/
theorem magnitude_eq (b : UInt64) : magnitude b = unitsOf (unsigned b) / unitsInOne := by
  have hexp : ((max 1 (exponentField b) : Nat) - 1075 : ℤ) =
      (max 1 (exponentField b) - 1 : Nat) - (1074 : Nat) := by omega
  rw [magnitude, unitsOf_unsigned, hexp, zpow_sub₀ two_ne_zero, zpow_natCast, zpow_natCast,
    ← cast_unitsInOne, Nat.cast_mul, Nat.cast_pow, Nat.cast_ofNat, mul_div_assoc]

open Float.Model UnpackedFloat in
theorem toBits_ofBits (h : Finite b ∨ Infinite b) : (Float.ofBits b).toBits = b := by
  have hnan : @isNaNBits Format.binary64 b.toBitVec = false := by
    rw [isNaNBits, decide_eq_false_iff_not, not_and_not_right]
    intro hall
    have hfield : exponentField b = 2047 := by
      have hcast := congrArg BitVec.toNat hall
      rw [unpackExponent_def] at hcast
      simpa [exponentField, Nat.shiftRight_eq_div_pow] using hcast
    have hrest : fractionField b = 0 := (h.resolve_left (· hfield)).2
    apply BitVec.eq_of_toNat_eq
    rw [unpackMantissa_def]
    simpa [fractionField] using hrest
  apply UInt64.toBitVec_inj.1
  change pack Format.binary64 (unpack Format.binary64 b.toBitVec) = b.toBitVec
  rw [pack_unpack, hnan]
  rfl

variable {n d : Nat} {q : ℚ}

theorem abs_sub_magnitude (q : ℚ) (b : UInt64) :
    |q - magnitude b| = |q * unitsInOne - unitsOf (unsigned b)| / unitsInOne := by
  have hpos := unitsInOne_pos
  rw [magnitude_eq, eq_div_iff hpos.ne', ← abs_of_pos hpos, ← abs_mul, abs_of_pos hpos, sub_mul,
    div_mul_cancel₀ _ hpos.ne']

/-- A number that is not negative is not nearer to a negative double than to its magnitude. -/
theorem abs_sub_magnitude_le (hq : 0 ≤ q) (c : UInt64) :
    |q - magnitude c| ≤ |q - number c| := by
  have hc := magnitude_nonneg c
  unfold number
  split_ifs
  · rw [sub_neg_eq_add, abs_of_nonneg (by linarith : 0 ≤ q + magnitude c), abs_le]
    constructor <;> linarith
  · exact le_rfl

theorem eq_magnitude_or_eq_zero (hq : 0 ≤ q) (h : |q - magnitude c| = |q - number c|) :
    number c = magnitude c ∨ q = 0 := by
  have hc := magnitude_nonneg c
  unfold number at h ⊢
  split_ifs at h ⊢
  · rw [sub_neg_eq_add, abs_of_nonneg (by linarith : 0 ≤ q + magnitude c)] at h
    obtain habs | habs := abs_choice (q - magnitude c)
    · left
      linarith
    · right
      linarith
  · exact .inl rfl

/-- The number of smallest doubles that make up the middle between the largest double and the
power of two that would come next. -/
theorem overflow_units :
    ((2 ^ 1024 - 2 ^ 970) * unitsInOne : ℚ) = (2 ^ 54 - 1) * 2 ^ lastShift := by
  have hlast : (2 ^ lastShift : ℚ) = 2 ^ 970 * 2 ^ 1074 := by
    rw [← pow_add]
    rfl
  have htop : (2 ^ 1024 : ℚ) = 2 ^ 54 * 2 ^ 970 := by
    rw [← pow_add]
  rw [cast_unitsInOne, hlast, htop]
  generalize (2 ^ 970 : ℚ) = x
  generalize (2 ^ 1074 : ℚ) = y
  ring

/-- The pattern as a word of 64 bits, which has room for it. -/
def nearestWord (n d : Nat) : UInt64 := .ofNat (nearestBits n d)

theorem toNat_nearestWord (n d : Nat) : (nearestWord n d).toNat = nearestBits n d := by
  have hle := nearestBits_le n d
  have hinfinity : infinityBits < 2 ^ 63 := by decide
  rw [nearestWord, UInt64.toNat_ofNat', Nat.mod_eq_of_lt (by omega)]

theorem not_negative_nearestWord (n d : Nat) : ¬ Negative (nearestWord n d) := by
  have hle := nearestBits_le n d
  have hinfinity : infinityBits < 2 ^ 63 := by decide
  rw [Negative, toNat_nearestWord]
  omega

theorem unsigned_nearestWord (n d : Nat) : unsigned (nearestWord n d) = nearestBits n d := by
  rw [unsigned_of_not_negative (not_negative_nearestWord n d), toNat_nearestWord]

theorem finite_or_infinite_nearestWord (n d : Nat) :
    Finite (nearestWord n d) ∨ Infinite (nearestWord n d) := by
  rw [finite_iff, infinite_iff, unsigned_nearestWord]
  exact Nat.lt_or_eq_of_le (nearestBits_le n d)

theorem infinite_nearestWord_iff (n : Nat) (hd : 0 < d) :
    Infinite (nearestWord n d) ↔ (2 ^ 1024 - 2 ^ 970 : ℚ) ≤ n / d := by
  have hunits : ((n * unitsInOne : Nat) / d : ℚ) = n / d * unitsInOne := by
    rw [Nat.cast_mul, mul_div_right_comm]
  rw [infinite_iff, unsigned_nearestWord, nearestBits_eq, min_eq_right_iff,
    infinityBits_le_roundedBits_iff _ hd, hunits, ← overflow_units,
    mul_le_mul_iff_of_pos_right unitsInOne_pos]

theorem nearest_nearestWord (n : Nat) (hd : 0 < d) (hb : Finite (nearestWord n d))
    (c : UInt64) : |(n / d : ℚ) - magnitude (nearestWord n d)| ≤ |(n / d : ℚ) - magnitude c| ∧
      (|(n / d : ℚ) - magnitude (nearestWord n d)| = |(n / d : ℚ) - magnitude c| →
        magnitude c = magnitude (nearestWord n d) ∨ significand (nearestWord n d) % 2 = 0) := by
  have hunits : (n / d * unitsInOne : ℚ) = (n * unitsInOne : Nat) / d := by
    rw [Nat.cast_mul, mul_div_right_comm]
  have hword : unsigned (nearestWord n d) = roundedBits (n * unitsInOne) d := by
    rw [finite_iff] at hb
    rw [unsigned_nearestWord, nearestBits_eq] at hb ⊢
    omega
  rw [abs_sub_magnitude, abs_sub_magnitude, hword, hunits, significand_mod_two, hword,
    magnitude_eq, magnitude_eq, hword]
  by_cases hc : unsigned c = roundedBits (n * unitsInOne) d
  · rw [hc]
    exact ⟨le_rfl, fun _ => .inl rfl⟩
  · obtain ⟨hle, htie⟩ := roundedBits_nearest (n * unitsInOne) hd hc
    constructor
    · exact div_le_div_of_nonneg_right hle unitsInOne_pos.le
    · intro h
      exact .inr (htie ((div_left_inj' unitsInOne_pos.ne').1 h))

/-- What is read of a ratio is the nearest double. -/
theorem roundsTo_nearest (n : Nat) (hd : 0 < d) : RoundsTo (n / d) (nearest n d).toBits := by
  have hbits : (nearest n d).toBits = nearestWord n d :=
    toBits_ofBits (finite_or_infinite_nearestWord n d)
  have hq : (0 : ℚ) ≤ n / d := by positivity
  have hnumber : number (nearestWord n d) = magnitude (nearestWord n d) :=
    if_neg (not_negative_nearestWord n d)
  rw [hbits]
  refine ⟨not_negative_nearestWord n d, finite_or_infinite_nearestWord n d,
    infinite_nearestWord_iff n hd, ?_, ?_⟩
  · intro hb c _
    rw [hnumber]
    exact (nearest_nearestWord n hd hb c).1.trans (abs_sub_magnitude_le hq c)
  · intro hb c _ h
    rw [hnumber] at h ⊢
    obtain ⟨hle, htie⟩ := nearest_nearestWord n hd hb c
    have hmagnitude := abs_sub_magnitude_le hq c
    have hsame : |(n / d : ℚ) - magnitude c| = |(n / d : ℚ) - number c| := by linarith
    obtain hc | h0 := eq_magnitude_or_eq_zero hq hsame
    · rw [hc] at h ⊢
      exact htie h
    · have hn : n = 0 := by
        have hzero := (div_eq_zero_iff.1 h0).resolve_right (Nat.cast_ne_zero.2 hd.ne')
        exact_mod_cast hzero
      right
      rw [hn, significand_mod_two, unsigned_nearestWord, nearestBits_zero]

end DeskCalculator.Number
