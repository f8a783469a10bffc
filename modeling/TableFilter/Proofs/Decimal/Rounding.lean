import Mathlib.Tactic.Linarith
import Mathlib.Tactic.Ring
import TableFilter.Decimal.Numeral
import TableFilter.Decimal.Shortest

/-!
# Rounding back into a basin

A basin holds the values that round to a double. Main statement: every value in the basin of a
double has that double as its nearest one.
-/

namespace TableFilter.Decimal

namespace Binary64

/-- A whole number at most half a unit away from a quotient is its floor or the number above. -/
theorem eq_div_or_eq_succ {numerator denominator whole : Nat}
    (hlow : 2 * (whole * denominator) ≤ 2 * numerator + denominator)
    (hhigh : 2 * numerator ≤ 2 * (whole * denominator) + denominator) (hpos : 0 < denominator) :
    whole = numerator / denominator ∨ whole = numerator / denominator + 1 := by
  have hsplit := Nat.div_add_mod numerator denominator
  have hrest := Nat.mod_lt numerator hpos
  have hcomm : denominator * whole = whole * denominator := Nat.mul_comm _ _
  generalize numerator / denominator = quotient at *
  have hupper : quotient ≤ whole := by
    by_contra hlt
    have hmul : denominator * (whole + 1) ≤ denominator * quotient :=
      Nat.mul_le_mul_left _ (by omega)
    rw [Nat.mul_add_one] at hmul
    omega
  have hlower : whole ≤ quotient + 1 := by
    by_contra hlt
    have hmul : denominator * (quotient + 1 + 1) ≤ denominator * whole :=
      Nat.mul_le_mul_left _ (by omega)
    rw [Nat.mul_add_one, Nat.mul_add_one] at hmul
    omega
  omega

/-- A whole number is what a quotient rounds to if it is at most half a unit away, and even where
it is just that far. -/
theorem roundToEven_eq {numerator denominator whole : Nat}
    (hlow : 2 * (whole * denominator) ≤ 2 * numerator + denominator)
    (hhigh : 2 * numerator ≤ 2 * (whole * denominator) + denominator)
    (hlowTie : 2 * (whole * denominator) = 2 * numerator + denominator → whole % 2 = 0)
    (hhighTie : 2 * numerator = 2 * (whole * denominator) + denominator → whole % 2 = 0)
    (hpos : 0 < denominator) : roundToEven numerator denominator = whole := by
  have hnear := eq_div_or_eq_succ hlow hhigh hpos
  have hsplit := Nat.div_add_mod numerator denominator
  have hrest := Nat.mod_lt numerator hpos
  rw [roundToEven]
  generalize numerator / denominator = quotient at *
  generalize numerator % denominator = rest at *
  subst hsplit
  rcases hnear with rfl | rfl
  · have hcomm : denominator * whole = whole * denominator := Nat.mul_comm _ _
    rw [if_pos]
    simp only [Bool.or_eq_true, Bool.and_eq_true, decide_eq_true_eq, beq_iff_eq]
    omega
  · have hexpand : (quotient + 1) * denominator = denominator * quotient + denominator := by ring
    rw [if_neg]
    simp only [Bool.or_eq_true, Bool.and_eq_true, decide_eq_true_eq, beq_iff_eq]
    omega

theorem ofParts?_self (x : Binary64) (negative : Bool) :
    ofParts? negative x.significand x.scale = some { x with negative } := by
  rw [ofParts?, dif_pos x.canonical]

end Binary64

/-- `numerator / denominator` units of 2⁻¹⁰⁷⁴ lie in a basin; at its ends they do if it is
closed. -/
structure Basin.Contains (b : Basin) (numerator denominator : Nat) : Prop where
  low_le : b.low * denominator ≤ 4 * numerator
  le_high : 4 * numerator ≤ b.high * denominator
  closed_of_low : b.low * denominator = 4 * numerator → b.closed = true
  closed_of_high : 4 * numerator = b.high * denominator → b.closed = true

namespace Basin.Contains

theorem of_scaled {b : Basin} {numerator denominator factor : Nat} (hpos : 0 < factor)
    (hcontains : b.Contains (numerator * factor) (denominator * factor)) :
    b.Contains numerator denominator := by
  have hlow : b.low * (denominator * factor) = b.low * denominator * factor := by ring
  have hhigh : b.high * (denominator * factor) = b.high * denominator * factor := by ring
  have hpoint : 4 * (numerator * factor) = 4 * numerator * factor := by ring
  obtain ⟨hlowLe, hleHigh, hlowTie, hhighTie⟩ := hcontains
  rw [hlow, hpoint] at hlowLe hlowTie
  rw [hhigh, hpoint] at hleHigh hhighTie
  exact ⟨Nat.le_of_mul_le_mul_right hlowLe hpos, Nat.le_of_mul_le_mul_right hleHigh hpos,
    fun heq => hlowTie (congrArg (· * factor) heq), fun heq => hhighTie (congrArg (· * factor) heq)⟩

theorem scaled {b : Basin} {numerator denominator : Nat} (factor : Nat) (hpos : 0 < factor)
    (hcontains : b.Contains numerator denominator) :
    b.Contains (numerator * factor) (denominator * factor) := by
  have hlow : b.low * (denominator * factor) = b.low * denominator * factor := by ring
  have hhigh : b.high * (denominator * factor) = b.high * denominator * factor := by ring
  have hpoint : 4 * (numerator * factor) = 4 * numerator * factor := by ring
  obtain ⟨hlowLe, hleHigh, hlowTie, hhighTie⟩ := hcontains
  constructor
  · rw [hlow, hpoint]
    exact Nat.mul_le_mul_right _ hlowLe
  · rw [hhigh, hpoint]
    exact Nat.mul_le_mul_right _ hleHigh
  · rw [hlow, hpoint]
    exact fun heq => hlowTie (Nat.eq_of_mul_eq_mul_right hpos heq)
  · rw [hhigh, hpoint]
    exact fun heq => hhighTie (Nat.eq_of_mul_eq_mul_right hpos heq)

/-- Two fractions of one value lie in the same basins. -/
theorem of_cross_eq {b : Basin} {numerator denominator numerator' denominator' : Nat}
    (hpos : 0 < denominator) (hpos' : 0 < denominator')
    (hcross : numerator' * denominator = numerator * denominator')
    (hcontains : b.Contains numerator denominator) : b.Contains numerator' denominator' := by
  have hscaled := hcontains.scaled denominator' hpos'
  rw [← hcross, Nat.mul_comm denominator] at hscaled
  exact hscaled.of_scaled hpos

end Basin.Contains

namespace Binary64

/-- The lower end of a basin in terms of the step between doubles there: half a step below the
double, or a quarter of one at a power of two. -/
theorem low_of (x : Binary64) (hpos : x.significand ≠ 0) (denominator : Nat) :
    (Basin.of x).low * denominator +
        (if x.significand = 2 ^ 52 && x.scale != 0 then 1 else 2) *
          (denominator * 2 ^ x.scale) =
      4 * (x.significand * (denominator * 2 ^ x.scale)) := by
  simp only [Basin.of]
  generalize hgap : (if x.significand = 2 ^ 52 && x.scale != 0 then 1 else 2) = gap
  have hgapLe : gap ≤ 4 * x.significand := by
    split at hgap <;> omega
  obtain ⟨rest, hrest⟩ := Nat.exists_eq_add_of_le hgapLe
  rw [hrest, Nat.add_sub_cancel_left]
  calc rest * 2 ^ x.scale * denominator + gap * (denominator * 2 ^ x.scale)
      = (gap + rest) * (denominator * 2 ^ x.scale) := by ring
    _ = 4 * (x.significand * (denominator * 2 ^ x.scale)) := by rw [← hrest]; ring

theorem high_of (x : Binary64) (denominator : Nat) :
    (Basin.of x).high * denominator =
      4 * (x.significand * (denominator * 2 ^ x.scale)) + 2 * (denominator * 2 ^ x.scale) := by
  simp only [Basin.of]
  ring

/-- The exponent of a value that lies in the binade with a given step. -/
theorem log2_div_sub_eq {numerator denominator : Nat} (scale : Nat) (hpos : 0 < denominator)
    (hlow : 2 ^ 52 * (denominator * 2 ^ scale) ≤ numerator)
    (hhigh : numerator < 2 ^ 53 * (denominator * 2 ^ scale)) :
    (numerator / denominator).log2 - 52 = scale := by
  have hge : 2 ^ (52 + scale) ≤ numerator / denominator := by
    rw [Nat.le_div_iff_mul_le hpos]
    calc 2 ^ (52 + scale) * denominator
        = 2 ^ 52 * (denominator * 2 ^ scale) := by rw [pow_add]; ring
      _ ≤ numerator := hlow
  have hlt : numerator / denominator < 2 ^ (52 + scale + 1) := by
    rw [Nat.div_lt_iff_lt_mul hpos]
    calc numerator < 2 ^ 53 * (denominator * 2 ^ scale) := hhigh
      _ = 2 ^ (52 + scale + 1) * denominator := by rw [pow_succ, pow_add]; ring
  have hne : numerator / denominator ≠ 0 := by
    have := Nat.two_pow_pos (52 + scale)
    omega
  have hlog := (Nat.log2_eq_iff hne).mpr ⟨hge, hlt⟩
  omega

/-- The least binade reaches down to zero. -/
theorem log2_div_sub_eq_zero {numerator denominator : Nat} (hpos : 0 < denominator)
    (hhigh : numerator < 2 ^ 53 * denominator) : (numerator / denominator).log2 - 52 = 0 := by
  have hlt : numerator / denominator < 2 ^ 53 := (Nat.div_lt_iff_lt_mul hpos).mpr hhigh
  by_cases hne : numerator / denominator = 0
  · rw [hne]
    rfl
  · have := (Nat.log2_lt hne).mpr hlt
    omega

/-- A value in the basin of a positive double that lies in the same binade rounds to its
significand. -/
theorem roundToEven_of_contains (x : Binary64) (hpos : x.significand ≠ 0)
    {numerator denominator : Nat} (hden : 0 < denominator)
    (hcontains : (Basin.of x).Contains numerator denominator) :
    roundToEven numerator (denominator * 2 ^ x.scale) = x.significand := by
  have hstep : 0 < denominator * 2 ^ x.scale := Nat.mul_pos hden (Nat.two_pow_pos _)
  have hlow := low_of x hpos denominator
  have hhigh := high_of x denominator
  obtain ⟨hlowLe, hleHigh, hlowTie, hhighTie⟩ := hcontains
  have heven : (Basin.of x).closed = true → x.significand % 2 = 0 := by
    simp [Basin.of]
  generalize (Basin.of x).low * denominator = low at *
  generalize (Basin.of x).high * denominator = high at *
  generalize denominator * 2 ^ x.scale = step at *
  refine roundToEven_eq ?_ ?_ ?_ ?_ hstep
  · split at hlow <;> omega
  · omega
  · intro htie
    split at hlow
    · omega
    · exact heven (hlowTie (by omega))
  · intro htie
    exact heven (hhighTie (by omega))

/-- A value in the basin of a double lies below the next binade. -/
theorem lt_of_contains (x : Binary64) {numerator denominator : Nat} (hden : 0 < denominator)
    (hcontains : (Basin.of x).Contains numerator denominator) :
    numerator < 2 ^ 53 * (denominator * 2 ^ x.scale) := by
  have hstep : 0 < denominator * 2 ^ x.scale := Nat.mul_pos hden (Nat.two_pow_pos _)
  have hsignificand := x.canonical.1
  have hhigh := high_of x denominator
  have hle := hcontains.le_high
  have hmul : x.significand * (denominator * 2 ^ x.scale) ≤
      (2 ^ 53 - 1) * (denominator * 2 ^ x.scale) := Nat.mul_le_mul_right _ (by omega)
  omega

/-- Only the basin of a power of two reaches below its binade, and by a quarter of a step. -/
theorem significand_eq_of_lt (x : Binary64) (hpos : x.significand ≠ 0) (hscale : x.scale ≠ 0)
    {numerator denominator : Nat} (hden : 0 < denominator)
    (hcontains : (Basin.of x).Contains numerator denominator)
    (hless : numerator < 2 ^ 52 * (denominator * 2 ^ x.scale)) :
    x.significand = 2 ^ 52 ∧
      4 * (2 ^ 52 * (denominator * 2 ^ x.scale)) ≤
        4 * numerator + denominator * 2 ^ x.scale := by
  have hstep : 0 < denominator * 2 ^ x.scale := Nat.mul_pos hden (Nat.two_pow_pos _)
  have hlow := low_of x hpos denominator
  have hlowLe := hcontains.low_le
  have hform := x.canonical.2.2
  have hpower : x.significand = 2 ^ 52 := by
    by_contra hne
    have hmul : (2 ^ 52 + 1) * (denominator * 2 ^ x.scale) ≤
        x.significand * (denominator * 2 ^ x.scale) := Nat.mul_le_mul_right _ (by omega)
    rw [decide_eq_false hne, Bool.false_and, if_neg Bool.false_ne_true] at hlow
    omega
  refine ⟨hpower, ?_⟩
  rw [if_pos (by simp [hpower, hscale]), hpower] at hlow
  omega

theorem nearest?_of_log2 (x : Binary64) {numerator denominator : Nat}
    (hexponent : (numerator / denominator).log2 - 52 = x.scale)
    (hround : roundToEven numerator (denominator * 2 ^ x.scale) = x.significand)
    (negative : Bool) :
    nearest? negative numerator denominator = some { x with negative } := by
  have hsignificand := x.canonical.1
  simp only [nearest?, hexponent, hround]
  rw [if_neg (by omega), ofParts?_self]

/-- Every value in the basin of a positive double has it as its nearest one. -/
theorem nearest?_of_contains (x : Binary64) (hpos : x.significand ≠ 0)
    {numerator denominator : Nat} (hden : 0 < denominator)
    (hcontains : (Basin.of x).Contains numerator denominator) (negative : Bool) :
    nearest? negative numerator denominator = some { x with negative } := by
  have hround := roundToEven_of_contains x hpos hden hcontains
  have hbelow := lt_of_contains x hden hcontains
  by_cases hscale : x.scale = 0
  · apply nearest?_of_log2 x _ hround
    rw [hscale]
    apply log2_div_sub_eq_zero hden
    simpa [hscale] using hbelow
  by_cases habove : 2 ^ 52 * (denominator * 2 ^ x.scale) ≤ numerator
  · exact nearest?_of_log2 x (log2_div_sub_eq x.scale hden habove hbelow) hround negative
  -- Just below a power of two the value is in the binade before it and rounds up to its end.
  · have hless := Nat.lt_of_not_le habove
    obtain ⟨hpower, hquarter⟩ := significand_eq_of_lt x hpos hscale hden hcontains hless
    obtain ⟨scale, hsucc⟩ := Nat.exists_eq_succ_of_ne_zero hscale
    have hstep : denominator * 2 ^ x.scale = 2 * (denominator * 2 ^ scale) := by
      rw [hsucc, pow_succ]
      ring
    rw [hstep] at hless hquarter
    have hhalf : 0 < denominator * 2 ^ scale := Nat.mul_pos hden (Nat.two_pow_pos _)
    have hexponent : (numerator / denominator).log2 - 52 = scale :=
      log2_div_sub_eq scale hden (by omega) (by omega)
    have hend : roundToEven numerator (denominator * 2 ^ scale) = 2 ^ 53 :=
      roundToEven_eq (by omega) (by omega) (fun _ => by norm_num) (fun _ => by norm_num) hhalf
    simp only [nearest?, hexponent, hend, if_true]
    rw [← ofParts?_self x, hpower, hsucc]

end Binary64

end TableFilter.Decimal
