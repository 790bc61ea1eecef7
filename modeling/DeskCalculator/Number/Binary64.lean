import DeskCalculator.Text.Digits

namespace DeskCalculator.Number

/-- The whole number nearest to `n / d`; of two equally near ones the even one. -/
def roundQuotient (n d : Nat) : Nat :=
  match compare (2 * (n % d)) d with
  | .lt => n / d
  | .eq => n / d + n / d % 2
  | .gt => n / d + 1

theorem roundQuotient_cases (n d : Nat) :
    (2 * (n % d) < d ∧ roundQuotient n d = n / d) ∨
    (2 * (n % d) = d ∧ roundQuotient n d = n / d + n / d % 2) ∨
    (d < 2 * (n % d) ∧ roundQuotient n d = n / d + 1) := by
  unfold roundQuotient
  split
  next h => exact .inl ⟨Nat.compare_eq_lt.1 h, rfl⟩
  next h => exact .inr (.inl ⟨Nat.compare_eq_eq.1 h, rfl⟩)
  next h => exact .inr (.inr ⟨Nat.compare_eq_gt.1 h, rfl⟩)

/-- The rounded quotient is at most half a unit away: both inequalities are scaled by `2 * d`. -/
theorem roundQuotient_error (n d : Nat) (hd : 0 < d) :
    2 * n ≤ 2 * (d * roundQuotient n d) + d ∧ 2 * (d * roundQuotient n d) ≤ 2 * n + d := by
  have hn : d * (n / d) + n % d = n := Nat.div_add_mod n d
  have hr : n % d < d := Nat.mod_lt n hd
  rcases roundQuotient_cases n d with ⟨h, hq⟩ | ⟨h, hq⟩ | ⟨h, hq⟩ <;> rw [hq]
  · omega
  · rcases Nat.mod_two_eq_zero_or_one (n / d) with he | he <;> rw [he]
    · simp only [Nat.add_zero]; omega
    · rw [Nat.mul_add]; omega
  · rw [Nat.mul_add]; omega

theorem roundQuotient_even (n d : Nat) (h : 2 * (n % d) = d) : roundQuotient n d % 2 = 0 := by
  rcases roundQuotient_cases n d with ⟨h', _⟩ | ⟨_, hq⟩ | ⟨h', _⟩
  · omega
  · omega
  · omega

theorem roundQuotient_zero (d : Nat) : roundQuotient 0 d = 0 := by
  rcases roundQuotient_cases 0 d with ⟨_, hq⟩ | ⟨_, hq⟩ | ⟨h, _⟩
  · simpa using hq
  · simpa using hq
  · simp at h

/-- The pattern of positive infinity: all exponent bits and no others. -/
def infinityBits : Nat := 2047 * Nat.pow 2 52

/-- How many of the smallest positive double, the unit of the grid, make up one. -/
def unitsInOne : Nat := Nat.pow 2 1074

/-- The value of a nonnegative pattern in units; an exponent field of zero has the unit itself as
its grid, and so has an exponent field of one. -/
def unitsOf (bits : Nat) : Nat :=
  let field := bits / Nat.pow 2 52
  if field = 0 then bits else (Nat.pow 2 52 + bits % Nat.pow 2 52) * Nat.pow 2 (field - 1)

/-- How many powers of two the grid around `n / d` units is coarser than the finest grid. -/
def gridShift (n d : Nat) : Nat := (n / d).log2 - 52

/-- The bit pattern of the double nearest to `n / d`, a tie going to the even pattern.

With `x = n * unitsInOne / d` and `s` the shift of its binade, the significand is `x / 2 ^ s`
rounded, and `s * 2 ^ 52 + significand` is the pattern: the hidden bit
of a normal significand is what raises its exponent field from `s` to `s + 1`, and a significand
that rounds up to `2 ^ 53` carries into the next binade. -/
def nearestBits (n d : Nat) : Nat :=
  let units := n * unitsInOne
  let s := gridShift units d
  min (s * Nat.pow 2 52 + roundQuotient units (d * Nat.pow 2 s)) infinityBits

/-- The double nearest to `n / d`. -/
def nearest (n d : Nat) : Float := Float.ofBits (.ofNat (nearestBits n d))

theorem nearestBits_le (n d : Nat) : nearestBits n d ≤ infinityBits := Nat.min_le_right ..

theorem nearestBits_zero (d : Nat) : nearestBits 0 d = 0 := by
  simp [nearestBits, gridShift, roundQuotient_zero]

/-- How many digits the largest double has. -/
def largestLength : Nat := 309

/-- Whether the double nearest to `0.ds * 10 ^ point` is finite. -/
def inRange (ds : List Char) (point : Int) : Bool :=
  let significant := ds.dropWhile (· == '0')
  let length := significant.length
  let place := point - (ds.length - length : Nat)
  significant.isEmpty || decide (place < largestLength) ||
    (place == largestLength &&
      decide (nearestBits (Text.digitsValue significant * Nat.pow 10 (largestLength - length))
        (Nat.pow 10 (length - largestLength)) < infinityBits))

end DeskCalculator.Number
