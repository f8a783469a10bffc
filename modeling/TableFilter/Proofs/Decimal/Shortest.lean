import TableFilter.Proofs.Decimal.Rounding

/-!
# The shortest text denotes its double

The digits that are chosen for a double lie in its basin, whatever grid they were found on. Main
statement: a decimal that lies in the basin of a double is read as that double.
-/

namespace TableFilter.Decimal

theorem decimalFactor_eq : decimalFactor = 4 * 2 ^ 1074 := by
  decide +kernel

theorem decimalFactor_lt : decimalFactor < basinFactor := by
  decide +kernel

theorem decimalFactor_pos : 0 < decimalFactor := by
  decide +kernel

theorem basinFactor_pos : 0 < basinFactor := by
  decide +kernel

namespace Basin

theorem holds_iff {b : Basin} {n : Nat} : b.holds n = true ↔
    b.low * basinFactor ≤ n * decimalFactor ∧ n * decimalFactor ≤ b.high * basinFactor ∧
      (b.low * basinFactor = n * decimalFactor → b.closed = true) ∧
        (n * decimalFactor = b.high * basinFactor → b.closed = true) := by
  rw [holds]
  generalize b.low * basinFactor = low
  generalize b.high * basinFactor = high
  generalize n * decimalFactor = point
  cases hclosed : b.closed with
  | true => simp
  | false =>
    simp only [Bool.false_eq_true, if_false, Bool.and_eq_true, decide_eq_true_eq, imp_false]
    omega

/-- What lies in a basin as a decimal lies in it as a fraction; `unit` is how many of its parts
make one. -/
theorem contains_of_holds {b : Basin} {n unit : Nat} (hunit : decimalFactor = 4 * unit)
    (hholds : b.holds n = true) : b.Contains (n * unit) basinFactor := by
  have hpoint : 4 * (n * unit) = n * decimalFactor := by
    rw [hunit]
    ring
  obtain ⟨hlow, hhigh, hlowTie, hhighTie⟩ := holds_iff.mp hholds
  constructor <;> rw [hpoint]
  · exact hlow
  · exact hhigh
  · exact hlowTie
  · exact hhighTie

theorem holds_of_onGrid? {b : Basin} {places n : Nat} (hgrid : b.onGrid? places = some n) :
    b.holds (n * 10 ^ places) = true := by
  simp only [onGrid?] at hgrid
  split at hgrid
  case h_1 => cases hgrid
  case h_2 hbelow _ =>
    cases hgrid
    exact hbelow
  case h_3 _ habove =>
    cases hgrid
    exact habove
  case h_4 hbelow habove =>
    split at hgrid
    · cases hgrid
      exact hbelow
    · cases hgrid
      exact habove

/-- A basin that reaches a whole unit below its exact value holds a decimal of the finest grid. -/
theorem exists_onGrid?_zero {b : Basin} (hlow : b.low + 1 ≤ b.exact) (hhigh : b.exact < b.high) :
    ∃ n, b.onGrid? 0 = some n := by
  have hbelow : b.holds (b.exact * basinFactor / decimalFactor) = true := by
    have hfactor := decimalFactor_lt
    have hsplit := Nat.div_add_mod (b.exact * basinFactor) decimalFactor
    have hrest := Nat.mod_lt (b.exact * basinFactor) decimalFactor_pos
    have hlowMul := Nat.mul_le_mul_right basinFactor hlow
    have hhighMul := Nat.mul_lt_mul_of_pos_right hhigh basinFactor_pos
    rw [Nat.add_mul, Nat.one_mul] at hlowMul
    rw [holds_iff, Nat.mul_comm (_ / _)]
    omega
  simp only [onGrid?, pow_zero, Nat.mul_one]
  rw [hbelow]
  split
  case h_1 heq _ => cases heq
  case h_2 => exact ⟨_, rfl⟩
  case h_3 heq _ => cases heq
  case h_4 =>
    split
    · exact ⟨_, rfl⟩
    · exact ⟨_, rfl⟩

theorem holds_coarsest {b : Basin} (hfinest : ∃ n, b.onGrid? 0 = some n) (places : Nat) :
    b.holds ((b.coarsest places).1 * 10 ^ (b.coarsest places).2) = true := by
  induction places with
  | zero =>
    obtain ⟨n, hn⟩ := hfinest
    simp only [coarsest, hn, Option.getD_some]
    exact holds_of_onGrid? hn
  | succ places ih =>
    rw [coarsest]
    split
    case h_1 n hn => exact holds_of_onGrid? hn
    case h_2 => exact ih

end Basin

namespace Binary64

theorem low_of_pos (x : Binary64) (hpos : x.significand ≠ 0) : 2 ≤ (Basin.of x).low := by
  have hlow := low_of x hpos 1
  have hstep := Nat.two_pow_pos x.scale
  have hmul : 1 * (1 * 2 ^ x.scale) ≤ x.significand * (1 * 2 ^ x.scale) :=
    Nat.mul_le_mul_right _ (by omega)
  split at hlow <;> omega

theorem exists_onGrid?_zero (x : Binary64) (hpos : x.significand ≠ 0) :
    ∃ n, (Basin.of x).onGrid? 0 = some n := by
  have hlow := low_of x hpos 1
  have hhigh := high_of x 1
  have hstep := Nat.two_pow_pos x.scale
  have hexact : (Basin.of x).exact = 4 * (x.significand * (1 * 2 ^ x.scale)) := by
    simp only [Basin.of]
    ring
  refine Basin.exists_onGrid?_zero ?_ (by omega)
  split at hlow <;> omega

theorem high_of_le (x : Binary64) {top : Nat} (hscale : x.scale ≤ top) :
    (Basin.of x).high ≤ 2 ^ 55 * 2 ^ top := by
  have hsignificand := x.canonical.1
  exact Nat.mul_le_mul (by omega) (Nat.pow_le_pow_right (by decide) hscale)

end Binary64

theorem pow_le_of_length_toDigits {n length : Nat} (hpos : n ≠ 0)
    (hlength : length < (Nat.toDigits 10 n).length) : 10 ^ length ≤ n := by
  rcases Nat.eq_zero_or_pos length with rfl | hpositive
  · omega
  · by_contra hlt
    have := (Nat.length_toDigits_le_iff (by decide) hpositive).mpr (Nat.lt_of_not_le hlt)
    omega

theorem lt_pow_length_toDigits (n : Nat) : n < 10 ^ (Nat.toDigits 10 n).length :=
  (Nat.length_toDigits_le_iff (by decide) Nat.length_toDigits_pos).mp (Nat.le_refl _)

/-- No decimal in the basin of a double is as large as 10³¹⁰. -/
theorem lt_of_holds_large {x : Binary64} {n : Nat} (power : Nat)
    (hholds : (Basin.of x).holds n = true) (hpower : 10 ^ power ≤ n) : power < 652 := by
  by_contra hlarge
  have hfact : 2 ^ 55 * 2 ^ 2045 * basinFactor < 10 ^ 652 * decimalFactor := by decide +kernel
  have hmonotone (least : Nat) (hle : least ≤ power) : 10 ^ least ≤ 10 ^ power :=
    Nat.pow_le_pow_right (by decide) hle
  exact absurd (calc 10 ^ 652 * decimalFactor
      ≤ n * decimalFactor := Nat.mul_le_mul_right _ ((hmonotone 652 (by omega)).trans hpower)
    _ ≤ (Basin.of x).high * basinFactor := (Basin.holds_iff.mp hholds).2.1
    _ ≤ 2 ^ 55 * 2 ^ 2045 * basinFactor :=
      Nat.mul_le_mul_right _ (x.high_of_le x.canonical.2.1))
    (Nat.not_le_of_lt hfact)

/-- No decimal in the basin of a positive double is as small as 10⁻³³¹. -/
theorem lt_of_holds_small {x : Binary64} (hpos : x.significand ≠ 0) {n : Nat} (power : Nat)
    (hholds : (Basin.of x).holds n = true) (hpower : n < 10 ^ power) : 11 < power := by
  by_contra hsmall
  have hfact : 10 ^ 11 * decimalFactor < 2 * basinFactor := by decide +kernel
  have hmonotone : 10 ^ power ≤ 10 ^ 11 := Nat.pow_le_pow_right (by decide) (by omega)
  exact absurd (calc 2 * basinFactor
      ≤ (Basin.of x).low * basinFactor := Nat.mul_le_mul_right _ (x.low_of_pos hpos)
    _ ≤ n * decimalFactor := (Basin.holds_iff.mp hholds).1
    _ ≤ 10 ^ 11 * decimalFactor := Nat.mul_le_mul_right _ (hpower.le.trans hmonotone))
    (Nat.not_le_of_lt hfact)

theorem Basin.Contains.of_whole {b : Basin} {coefficient exponent unit : Nat}
    (hcontains : b.Contains (coefficient * 10 ^ (exponent + decimalPlaces) * unit) basinFactor) :
    b.Contains (coefficient * 10 ^ exponent * unit) 1 := by
  refine hcontains.of_cross_eq basinFactor_pos Nat.one_pos ?_
  rw [pow_add, basinFactor]
  ring

theorem Basin.Contains.of_fraction {b : Basin} {coefficient places power unit : Nat}
    (hsum : decimalPlaces = power + places)
    (hcontains : b.Contains (coefficient * 10 ^ power * unit) basinFactor) :
    b.Contains (coefficient * unit) (10 ^ places) := by
  refine hcontains.of_cross_eq basinFactor_pos (Nat.pow_pos (by decide)) ?_
  rw [basinFactor, hsum, pow_add]
  ring

/-- A decimal in the basin of a positive double is read as that double. -/
theorem nearestDouble?_of_holds {x : Binary64} (hpos : x.significand ≠ 0) {coefficient : Nat}
    {exponent : Int} (hexponent : -(decimalPlaces : Int) ≤ exponent)
    (hholds : (Basin.of x).holds
      (coefficient * 10 ^ (exponent + decimalPlaces).toNat) = true) (negative : Bool) :
    nearestDouble? negative coefficient exponent = some { x with negative } := by
  have hplaces : decimalPlaces = 342 := rfl
  generalize hpower : (exponent + decimalPlaces).toNat = power at hholds
  have hlengthPos := @Nat.length_toDigits_pos 10 coefficient
  have hcoefficient : coefficient ≠ 0 := by
    rintro rfl
    have := lt_of_holds_small hpos 0 hholds (by simp)
    omega
  have hnotLarge : ¬ (Nat.toDigits 10 coefficient).length + exponent > 310 := by
    intro hsize
    have hdigits : 10 ^ ((Nat.toDigits 10 coefficient).length - 1) ≤ coefficient :=
      pow_le_of_length_toDigits hcoefficient (by omega)
    have hlt := lt_of_holds_large ((Nat.toDigits 10 coefficient).length - 1 + power) hholds
      (by rw [pow_add]; exact Nat.mul_le_mul_right _ hdigits)
    omega
  have hnotSmall : ¬ (Nat.toDigits 10 coefficient).length + exponent < -330 := by
    intro hsize
    have hlt := lt_of_holds_small hpos ((Nat.toDigits 10 coefficient).length + power) hholds
      (by rw [pow_add]
          exact Nat.mul_lt_mul_of_pos_right (lt_pow_length_toDigits coefficient)
            (Nat.pow_pos (by decide)))
    omega
  have hcontains := Basin.contains_of_holds decimalFactor_eq hholds
  rw [nearestDouble?, if_neg hcoefficient]
  simp only [if_neg hnotLarge, if_neg hnotSmall]
  split
  case isTrue hsign =>
    have hsum : power = exponent.toNat + decimalPlaces := by omega
    rw [hsum] at hcontains
    apply Binary64.nearest?_of_contains x hpos Nat.one_pos
    apply hcontains.of_whole
  case isFalse hsign =>
    apply Binary64.nearest?_of_contains x hpos (Nat.pow_pos (by decide))
    apply hcontains.of_fraction
    omega

end TableFilter.Decimal
