import DeskCalculator.Number.Binary64
import Mathlib.Tactic.Linarith
import Mathlib.Tactic.Positivity
import Mathlib.Tactic.FieldSimp
import Mathlib.Tactic.Ring

/-!
The grid of the nonnegative doubles and the rounding to it. In units of the smallest positive
double the grid is strictly increasing along the patterns, with a spacing that depends on the
exponent field alone. The pattern that a ratio is rounded to is the nearest one of all, and an
even one where two are equally near (`roundedBits_nearest`); from the middle behind the largest
double on it is that of infinity (`infinityBits_le_roundedBits_iff`).
-/

namespace DeskCalculator.Number

section Grid

variable {s m b p : Nat}

theorem unitsOf_of_field_zero (h : b / 2 ^ 52 = 0) : unitsOf b = b := if_pos h

theorem unitsOf_of_field_ne_zero (h : b / 2 ^ 52 ≠ 0) :
    unitsOf b = (2 ^ 52 + b % 2 ^ 52) * 2 ^ (b / 2 ^ 52 - 1) := if_neg h

/-- A significand of at most `2 ^ 53` in its binade, be it a carry into the next one. -/
theorem unitsOf_add (hm : m ≤ 2 ^ 53) (hs : s = 0 ∨ 2 ^ 52 ≤ m) :
    unitsOf (s * 2 ^ 52 + m) = m * 2 ^ s := by
  obtain hlt | hnormal | hcarry : m < 2 ^ 52 ∨ (2 ^ 52 ≤ m ∧ m < 2 ^ 53) ∨ m = 2 ^ 53 := by omega
  · have hs0 : s = 0 := by omega
    subst hs0
    rw [unitsOf_of_field_zero (by omega)]
    omega
  · have hfield : (s * 2 ^ 52 + m) / 2 ^ 52 = s + 1 := by omega
    have hrest : 2 ^ 52 + (s * 2 ^ 52 + m) % 2 ^ 52 = m := by omega
    rw [unitsOf_of_field_ne_zero (by omega), hfield, hrest, Nat.add_sub_cancel]
  · subst hcarry
    have hfield : (s * 2 ^ 52 + 2 ^ 53) / 2 ^ 52 = s + 2 := by omega
    have hrest : (s * 2 ^ 52 + 2 ^ 53) % 2 ^ 52 = 0 := by omega
    have hexp : s + 2 - 1 = s + 1 := by omega
    rw [unitsOf_of_field_ne_zero (by omega), hfield, hrest, hexp]
    ring

/-- Each pattern is a significand in a binade. -/
theorem exists_binade (b : Nat) : ∃ s m, b = s * 2 ^ 52 + m ∧ m < 2 ^ 53 ∧
    (s = 0 ∨ 2 ^ 52 ≤ m) ∧ s = b / 2 ^ 52 - 1 :=
  ⟨b / 2 ^ 52 - 1, b - (b / 2 ^ 52 - 1) * 2 ^ 52, by omega, by omega, by omega, rfl⟩

theorem unitsOf_succ (b : Nat) : unitsOf (b + 1) = unitsOf b + 2 ^ (b / 2 ^ 52 - 1) := by
  obtain ⟨s, m, hb, hm, hs, hexp⟩ := exists_binade b
  rw [← hexp, hb, Nat.add_assoc, unitsOf_add (by omega) hs, unitsOf_add (by omega) (by omega),
    Nat.succ_mul]

theorem unitsOf_strictMono : StrictMono unitsOf := by
  apply strictMono_nat_of_lt_succ
  intro b
  rw [unitsOf_succ]
  exact Nat.lt_add_of_pos_right (Nat.two_pow_pos _)

/-- Above a binade the grid is at least as coarse as in it. -/
theorem unitsOf_add_le_of_lt (hs : s = 0 ∨ 2 ^ 52 ≤ m) (h : s * 2 ^ 52 + m < p) :
    unitsOf (s * 2 ^ 52 + m) + 2 ^ s ≤ unitsOf p := by
  have hexp : s ≤ (s * 2 ^ 52 + m) / 2 ^ 52 - 1 := by omega
  have hpow : 2 ^ s ≤ 2 ^ ((s * 2 ^ 52 + m) / 2 ^ 52 - 1) := Nat.pow_le_pow_right (by omega) hexp
  have hnext : unitsOf (s * 2 ^ 52 + m + 1) ≤ unitsOf p := unitsOf_strictMono.monotone h
  rw [unitsOf_succ] at hnext
  omega

/-- Below a significand that is not the first one of its binade the grid is as coarse as there. -/
theorem unitsOf_add_le_of_gt (hm : m ≤ 2 ^ 53) (hs : s = 0 ∨ 2 ^ 52 < m)
    (h : p < s * 2 ^ 52 + m) : unitsOf p + 2 ^ s ≤ unitsOf (s * 2 ^ 52 + m) := by
  have hle : unitsOf p ≤ unitsOf (s * 2 ^ 52 + (m - 1)) := by
    apply unitsOf_strictMono.monotone
    omega
  have hstep : (m - 1) * 2 ^ s + 2 ^ s = m * 2 ^ s := by
    rw [← Nat.succ_mul]
    congr 1
    omega
  rw [unitsOf_add (by omega) (by omega)] at hle ⊢
  omega

end Grid

section Rounding

variable {n d m : Nat}

theorem roundQuotient_bounds (n d : Nat) :
    n / d ≤ roundQuotient n d ∧ roundQuotient n d ≤ n / d + 1 := by
  obtain ⟨-, h⟩ | ⟨-, h⟩ | ⟨-, h⟩ := roundQuotient_cases n d <;> omega

/-- A rounded quotient that is off by half a unit is even. -/
theorem roundQuotient_even_of_half (hd : 0 < d)
    (h : 2 * n = 2 * (d * roundQuotient n d) + d ∨ 2 * (d * roundQuotient n d) = 2 * n + d) :
    roundQuotient n d % 2 = 0 := by
  have hn : d * (n / d) + n % d = n := Nat.div_add_mod n d
  have hr : n % d < d := Nat.mod_lt n hd
  obtain ⟨hlt, hq⟩ | ⟨heq, -⟩ | ⟨hgt, hq⟩ := roundQuotient_cases n d
  · rw [hq] at h
    omega
  · exact roundQuotient_even n d heq
  · rw [hq, Nat.mul_add] at h
    omega

theorem abs_sub_roundQuotient_le (n : Nat) (hd : 0 < d) :
    |(n / d : ℚ) - roundQuotient n d| ≤ 1 / 2 := by
  have hdq : (0 : ℚ) < d := by exact_mod_cast hd
  have hn : (n : ℚ) = d * (n / d) := by field_simp
  obtain ⟨hlow, hhigh⟩ := roundQuotient_error n d hd
  have hlow : (2 * n : ℚ) ≤ 2 * (d * roundQuotient n d) + d := by exact_mod_cast hlow
  have hhigh : (2 * (d * roundQuotient n d) : ℚ) ≤ 2 * n + d := by exact_mod_cast hhigh
  rw [hn] at hlow hhigh
  rw [abs_le]
  constructor
  · apply le_of_mul_le_mul_left _ hdq
    linarith
  · apply le_of_mul_le_mul_left _ hdq
    linarith

theorem roundQuotient_even_of_abs_sub (hd : 0 < d)
    (h : |(n / d : ℚ) - roundQuotient n d| = 1 / 2) : roundQuotient n d % 2 = 0 := by
  have hdq : (d : ℚ) ≠ 0 := by exact_mod_cast hd.ne'
  have hn : (n : ℚ) = d * (n / d) := by field_simp
  apply roundQuotient_even_of_half hd
  obtain h | h := (abs_eq (by norm_num)).1 h
  · have hx : (n / d : ℚ) = roundQuotient n d + 1 / 2 := by linarith
    rw [hx] at hn
    left
    have hcast : (2 * n : ℚ) = 2 * (d * roundQuotient n d) + d := by linarith
    exact_mod_cast hcast
  · have hx : (n / d : ℚ) = roundQuotient n d - 1 / 2 := by linarith
    rw [hx] at hn
    right
    have hcast : (2 * (d * roundQuotient n d) : ℚ) = 2 * n + d := by linarith
    exact_mod_cast hcast

/-- The binade of a ratio of units: its significand has at most 53 bits there, and exactly as many
unless it is the first one. -/
theorem gridShift_spec (n d : Nat) : n / d < 2 ^ 53 * 2 ^ gridShift n d ∧
    (gridShift n d = 0 ∨ 2 ^ 52 * 2 ^ gridShift n d ≤ n / d) := by
  have hshift : gridShift n d = (n / d).log2 - 52 := rfl
  have hlt : n / d < 2 ^ ((n / d).log2 + 1) := Nat.lt_log2_self
  obtain hle | hgt : (n / d).log2 ≤ 52 ∨ 52 < (n / d).log2 := by omega
  · have hzero : gridShift n d = 0 := by omega
    have hpow : 2 ^ ((n / d).log2 + 1) ≤ 2 ^ 53 := Nat.pow_le_pow_right (by omega) (by omega)
    rw [hzero]
    omega
  · have hlog : (n / d).log2 = 52 + gridShift n d := by omega
    have hne : n / d ≠ 0 := by
      intro h0
      rw [h0] at hgt
      simp at hgt
    have hle : 2 ^ (n / d).log2 ≤ n / d := Nat.log2_self_le hne
    rw [hlog, Nat.pow_add] at hle
    rw [hlog, show 52 + gridShift n d + 1 = 53 + gridShift n d by omega, Nat.pow_add] at hlt
    exact ⟨hlt, .inr hle⟩

/-- The significand of a ratio of units. -/
def roundedSignificand (n d : Nat) : Nat := roundQuotient n (d * 2 ^ gridShift n d)

/-- The pattern that a ratio of units is rounded to, as if there were no largest one. -/
def roundedBits (n d : Nat) : Nat := gridShift n d * 2 ^ 52 + roundedSignificand n d

theorem nearestBits_eq (n d : Nat) :
    nearestBits n d = min (roundedBits (n * unitsInOne) d) infinityBits := rfl

theorem roundedSignificand_bounds (n d : Nat) : roundedSignificand n d ≤ 2 ^ 53 ∧
    (gridShift n d = 0 ∨ 2 ^ 52 ≤ roundedSignificand n d) := by
  obtain ⟨hlow, hhigh⟩ := roundQuotient_bounds n (d * 2 ^ gridShift n d)
  obtain ⟨hlt, hle⟩ := gridShift_spec n d
  have hpos : 0 < 2 ^ gridShift n d := Nat.two_pow_pos _
  rw [← Nat.div_div_eq_div_mul] at hlow hhigh
  have hfew : n / d / 2 ^ gridShift n d < 2 ^ 53 := (Nat.div_lt_iff_lt_mul hpos).2 hlt
  have hmany : gridShift n d = 0 ∨ 2 ^ 52 ≤ n / d / 2 ^ gridShift n d :=
    hle.imp_right (Nat.le_div_iff_mul_le hpos).2
  unfold roundedSignificand
  exact ⟨by omega, hmany.imp_right fun h => h.trans hlow⟩

theorem unitsOf_roundedBits (n d : Nat) :
    unitsOf (roundedBits n d) = roundedSignificand n d * 2 ^ gridShift n d := by
  obtain ⟨hle, hs⟩ := roundedSignificand_bounds n d
  exact unitsOf_add hle hs

theorem roundedBits_mod_two (n d : Nat) :
    roundedBits n d % 2 = roundedSignificand n d % 2 := by
  unfold roundedBits
  omega

/-- The rounding error in units is that of the significand, scaled by the binade. -/
theorem abs_sub_unitsOf_roundedBits (n d : Nat) :
    |(n / d : ℚ) - unitsOf (roundedBits n d)| = 2 ^ gridShift n d *
      |(n / (d * 2 ^ gridShift n d : Nat) : ℚ) - roundedSignificand n d| := by
  have hpos : (0 : ℚ) < 2 ^ gridShift n d := by positivity
  rw [unitsOf_roundedBits, ← abs_of_pos hpos, ← abs_mul]
  congr 1
  push_cast
  field_simp

theorem abs_sub_unitsOf_le (n : Nat) (hd : 0 < d) :
    |(n / d : ℚ) - unitsOf (roundedBits n d)| ≤ 2 ^ gridShift n d / 2 := by
  have hpos : 0 < d * 2 ^ gridShift n d := Nat.mul_pos hd (Nat.two_pow_pos _)
  have hquotient := abs_sub_roundQuotient_le n hpos
  have hunit : (0 : ℚ) ≤ 2 ^ gridShift n d := by positivity
  rw [abs_sub_unitsOf_roundedBits]
  calc
    _ ≤ (2 ^ gridShift n d * (1 / 2) : ℚ) := mul_le_mul_of_nonneg_left hquotient hunit
    _ = 2 ^ gridShift n d / 2 := by ring

/-- Only at even patterns the rounding error is half of the spacing. -/
theorem even_of_abs_sub_unitsOf (hd : 0 < d)
    (h : |(n / d : ℚ) - unitsOf (roundedBits n d)| = 2 ^ gridShift n d / 2) :
    roundedBits n d % 2 = 0 := by
  have hpos : 0 < d * 2 ^ gridShift n d := Nat.mul_pos hd (Nat.two_pow_pos _)
  have hunit : (2 ^ gridShift n d : ℚ) ≠ 0 := by positivity
  have hscaled : (2 ^ gridShift n d : ℚ) / 2 = 2 ^ gridShift n d * (1 / 2) := by ring
  rw [abs_sub_unitsOf_roundedBits, hscaled] at h
  rw [roundedBits_mod_two]
  exact roundQuotient_even_of_abs_sub hpos (mul_left_cancel₀ hunit h)

/-- A point within half a step is not nearer to one that is a step away; it is as near only in the
middle. -/
theorem abs_le_abs_sub_of_gap {e gap half : ℚ} (he : |e| ≤ half) (hgap : 2 * half ≤ gap) :
    |e| ≤ |e - gap| ∧ (|e| = |e - gap| → |e| = half) := by
  obtain ⟨hlow, hhigh⟩ := abs_le.1 he
  have hd : |e - gap| = gap - e := by
    rw [abs_sub_comm]
    exact abs_of_nonneg (by linarith)
  rw [hd]
  constructor
  · linarith
  · intro h
    linarith

theorem abs_le_abs_add_of_gap {e gap half : ℚ} (he : |e| ≤ half) (hgap : 2 * half ≤ gap) :
    |e| ≤ |e + gap| ∧ (|e| = |e + gap| → |e| = half) := by
  have hmirror : |-e| ≤ half := by rwa [abs_neg]
  have hmirrored := abs_le_abs_sub_of_gap hmirror hgap
  have hneg : -e - gap = -(e + gap) := by ring
  rwa [hneg, abs_neg, abs_neg] at hmirrored

variable {p : Nat}

theorem nearest_of_gt (n : Nat) (hd : 0 < d) (hp : roundedBits n d < p) :
    |(n / d : ℚ) - unitsOf (roundedBits n d)| ≤ |(n / d : ℚ) - unitsOf p| ∧
      (|(n / d : ℚ) - unitsOf (roundedBits n d)| = |(n / d : ℚ) - unitsOf p| →
        roundedBits n d % 2 = 0) := by
  have hgrid := unitsOf_add_le_of_lt (roundedSignificand_bounds n d).2 hp
  have hgap : (unitsOf (roundedBits n d) + 2 ^ gridShift n d : ℚ) ≤ unitsOf p := by
    exact_mod_cast hgrid
  have hsplit : (n / d : ℚ) - unitsOf p = (n / d - unitsOf (roundedBits n d)) -
      (unitsOf p - unitsOf (roundedBits n d)) := by ring
  have hwide : (2 * (2 ^ gridShift n d / 2) : ℚ) ≤
      unitsOf p - unitsOf (roundedBits n d) := by linarith
  obtain ⟨hle, htie⟩ := abs_le_abs_sub_of_gap (abs_sub_unitsOf_le n hd) hwide
  rw [hsplit]
  exact ⟨hle, fun h => even_of_abs_sub_unitsOf hd (htie h)⟩

/-- The first significand of a binade is not rounded up to, so what lies below it is farther. -/
theorem unitsOf_le_of_first (hd : 0 < d) (hs : gridShift n d ≠ 0)
    (hm : roundedSignificand n d = 2 ^ 52) : (unitsOf (roundedBits n d) : ℚ) ≤ n / d := by
  have hle := (gridShift_spec n d).2.resolve_left hs
  have hdq : (0 : ℚ) < d := by exact_mod_cast hd
  rw [unitsOf_roundedBits, hm, le_div_iff₀ hdq]
  exact_mod_cast (Nat.le_div_iff_mul_le hd).1 hle

theorem nearest_of_lt (n : Nat) (hd : 0 < d) (hp : p < roundedBits n d) :
    |(n / d : ℚ) - unitsOf (roundedBits n d)| ≤ |(n / d : ℚ) - unitsOf p| ∧
      (|(n / d : ℚ) - unitsOf (roundedBits n d)| = |(n / d : ℚ) - unitsOf p| →
        roundedBits n d % 2 = 0) := by
  obtain ⟨hm, hs⟩ := roundedSignificand_bounds n d
  by_cases hfirst : gridShift n d ≠ 0 ∧ roundedSignificand n d = 2 ^ 52
  · have hle := unitsOf_le_of_first hd hfirst.1 hfirst.2
    have hlt : (unitsOf p : ℚ) < unitsOf (roundedBits n d) := by
      exact_mod_cast unitsOf_strictMono hp
    rw [abs_of_nonneg (by linarith), abs_of_nonneg (by linarith)]
    constructor
    · linarith
    · intro h
      linarith
  · have hgrid := unitsOf_add_le_of_gt hm (by omega) hp
    have hgap : (unitsOf p + 2 ^ gridShift n d : ℚ) ≤ unitsOf (roundedBits n d) := by
      exact_mod_cast hgrid
    have hsplit : (n / d : ℚ) - unitsOf p = (n / d - unitsOf (roundedBits n d)) +
        (unitsOf (roundedBits n d) - unitsOf p) := by ring
    have hwide : (2 * (2 ^ gridShift n d / 2) : ℚ) ≤
        unitsOf (roundedBits n d) - unitsOf p := by linarith
    obtain ⟨hle, htie⟩ := abs_le_abs_add_of_gap (abs_sub_unitsOf_le n hd) hwide
    rw [hsplit]
    exact ⟨hle, fun h => even_of_abs_sub_unitsOf hd (htie h)⟩

/-- No other point of the grid is nearer than the rounded one, and where one is as near, the
rounded one is even. -/
theorem roundedBits_nearest (n : Nat) (hd : 0 < d) (hp : p ≠ roundedBits n d) :
    |(n / d : ℚ) - unitsOf (roundedBits n d)| ≤ |(n / d : ℚ) - unitsOf p| ∧
      (|(n / d : ℚ) - unitsOf (roundedBits n d)| = |(n / d : ℚ) - unitsOf p| →
        roundedBits n d % 2 = 0) := by
  obtain hlt | hgt := Nat.lt_or_gt_of_ne hp
  · exact nearest_of_lt n hd hlt
  · exact nearest_of_gt n hd hgt

/-- That step is `2 ^ (lastShift + 1)` units. -/
def lastShift : Nat := 2044

theorem unitsOf_succ_shift (s : Nat) (hm : m ≤ 2 ^ 53) (hs : 2 ^ 52 ≤ m) :
    unitsOf ((s + 1) * 2 ^ 52 + m) = 2 * m * 2 ^ s := by
  rw [unitsOf_add hm (.inr hs), Nat.pow_succ]
  ring

theorem unitsOf_infinityBits : unitsOf infinityBits = 2 ^ 54 * 2 ^ lastShift := by
  have hpattern : infinityBits = (lastShift + 1) * 2 ^ 52 + 2 ^ 53 := rfl
  rw [hpattern, unitsOf_succ_shift lastShift (by omega) (by omega)]
  generalize 2 ^ lastShift = unit
  omega

theorem unitsOf_largest : unitsOf (infinityBits - 1) = (2 ^ 54 - 2) * 2 ^ lastShift := by
  have hpattern : infinityBits - 1 = (lastShift + 1) * 2 ^ 52 + (2 ^ 53 - 1) := rfl
  rw [hpattern, unitsOf_succ_shift lastShift (by omega) (by omega)]
  generalize 2 ^ lastShift = unit
  omega

/-- A ratio is rounded to infinity, or beyond it, from where the largest double is not nearer: at
equal distance the even pattern is preferred, and the largest one is odd. -/
theorem infinityBits_le_roundedBits_iff (n : Nat) (hd : 0 < d) :
    infinityBits ≤ roundedBits n d ↔ ((2 ^ 54 - 1) * 2 ^ lastShift : ℚ) ≤ n / d := by
  have hodd : (infinityBits - 1) % 2 = 1 := by decide
  have hinfinity : (unitsOf infinityBits : ℚ) = 2 ^ 54 * 2 ^ lastShift := by
    exact_mod_cast unitsOf_infinityBits
  have hlargest : (unitsOf (infinityBits - 1) : ℚ) = (2 ^ 54 - 2) * 2 ^ lastShift := by
    have hodds : ((2 ^ 54 - 2 : Nat) : ℚ) = 2 ^ 54 - 2 := by norm_num
    rw [unitsOf_largest, Nat.cast_mul, Nat.cast_pow, Nat.cast_ofNat, hodds]
  have hpos : (0 : ℚ) < 2 ^ lastShift := by positivity
  constructor
  · intro hle
    by_contra hlt
    have hne : infinityBits - 1 ≠ roundedBits n d := by omega
    have hmono : (unitsOf infinityBits : ℚ) ≤ unitsOf (roundedBits n d) := by
      exact_mod_cast unitsOf_strictMono.monotone hle
    have hnearest := (roundedBits_nearest n hd hne).1
    have hnearer : |(n / d : ℚ) - unitsOf (infinityBits - 1)| <
        unitsOf (roundedBits n d) - n / d := by
      rw [abs_lt]
      constructor <;> linarith
    rw [abs_sub_comm, abs_of_pos (by linarith)] at hnearest
    linarith
  · intro hle
    by_contra hlt
    have hne : infinityBits ≠ roundedBits n d := by omega
    have hbelow : roundedBits n d ≤ infinityBits - 1 := by omega
    have hmono : (unitsOf (roundedBits n d) : ℚ) ≤ unitsOf (infinityBits - 1) := by
      exact_mod_cast unitsOf_strictMono.monotone hbelow
    obtain ⟨hnearest, htie⟩ := roundedBits_nearest n hd hne
    rw [abs_of_pos (by linarith)] at hnearest htie
    obtain hx | hx := le_total (unitsOf infinityBits : ℚ) (n / d)
    · rw [abs_of_nonneg (by linarith)] at hnearest
      linarith
    · rw [abs_sub_comm, abs_of_nonneg (by linarith)] at hnearest htie
      -- the ratio lies in the middle between the two patterns, and the lower one is odd
      have hmiddle : (unitsOf (roundedBits n d) : ℚ) = unitsOf (infinityBits - 1) := by linarith
      have hsame : unitsOf (roundedBits n d) = unitsOf (infinityBits - 1) := by
        exact_mod_cast hmiddle
      have heven := htie (by linarith)
      rw [unitsOf_strictMono.injective hsame] at heven
      omega

end Rounding

end DeskCalculator.Number
