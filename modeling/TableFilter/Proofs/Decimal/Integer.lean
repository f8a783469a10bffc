import TableFilter.Proofs.Decimal.Rounding

/-!
# Doubles of whole numbers

Taking the nearest double keeps the order of numbers, and a whole number of at most 53 bits is a
double itself. Main statements: `roundedInt_le_roundedInt` and `roundedInt_eq`.
-/

namespace TableFilter.Decimal.Binary64

-- Powers are those of the core library, as in the definition of doubles.
attribute [local instance (2000)] instPowNat

/-! ## Rounding keeps the order -/

section Order

variable {numerator larger denominator whole : Nat}

theorem div_le_roundToEven (numerator denominator : Nat) :
    numerator / denominator ≤ roundToEven numerator denominator := by
  rw [roundToEven]
  split <;> omega

theorem roundToEven_le_succ_div (numerator denominator : Nat) :
    roundToEven numerator denominator ≤ numerator / denominator + 1 := by
  rw [roundToEven]
  split <;> omega

theorem roundToEven_le_roundToEven (hle : numerator ≤ larger) :
    roundToEven numerator denominator ≤ roundToEven larger denominator := by
  have hquotients : numerator / denominator ≤ larger / denominator := Nat.div_le_div_right hle
  rcases Nat.lt_or_eq_of_le hquotients with hless | hsame
  · calc roundToEven numerator denominator
        ≤ numerator / denominator + 1 := roundToEven_le_succ_div _ _
      _ ≤ larger / denominator := hless
      _ ≤ roundToEven larger denominator := div_le_roundToEven _ _
  · -- With one quotient, what is left over decides, and the larger number leaves more.
    have hrests : numerator % denominator ≤ larger % denominator := by
      have hsplit := Nat.div_add_mod numerator denominator
      have hsplit' := Nat.div_add_mod larger denominator
      rw [hsame] at hsplit
      omega
    simp only [roundToEven, hsame, Bool.or_eq_true, Bool.and_eq_true, decide_eq_true_eq, beq_iff_eq]
    split <;> split <;> omega

theorem roundToEven_mul (whole : Nat) (hpos : 0 < denominator) :
    roundToEven (whole * denominator) denominator = whole :=
  roundToEven_eq (by omega) (by omega) (by omega) (by omega) hpos

theorem le_roundToEven (hle : whole * denominator ≤ numerator) (hpos : 0 < denominator) :
    whole ≤ roundToEven numerator denominator := by
  rw [← roundToEven_mul whole hpos]
  exact roundToEven_le_roundToEven hle

theorem roundToEven_le (hle : numerator ≤ whole * denominator) (hpos : 0 < denominator) :
    roundToEven numerator denominator ≤ whole := by
  rw [← roundToEven_mul whole hpos]
  exact roundToEven_le_roundToEven hle

end Order

/-! ## The nearest double -/

section Nearest

variable {numerator larger denominator : Nat}

/-- The scale of the doubles around `numerator / denominator` units of 2⁻¹⁰⁷⁴. -/
def scaleOf (numerator denominator : Nat) : Nat :=
  (numerator / denominator).log2 - 52

/-- The size of the double nearest to `numerator / denominator` units of 2⁻¹⁰⁷⁴, if there is no
end to the scales. -/
def roundedSize (numerator denominator : Nat) : Nat :=
  roundToEven numerator (denominator * 2 ^ scaleOf numerator denominator) *
    2 ^ scaleOf numerator denominator

/-- The numbers of one scale end where those of the next one start. -/
theorem top_le_bottom (factor : Nat) {scale scale' : Nat} (hless : scale < scale') :
    2 ^ 53 * (factor * 2 ^ scale) ≤ 2 ^ 52 * (factor * 2 ^ scale') := by
  calc 2 ^ 53 * (factor * 2 ^ scale)
      = 2 ^ 52 * (factor * 2 ^ (scale + 1)) := by rw [Nat.pow_succ]; ring
    _ ≤ 2 ^ 52 * (factor * 2 ^ scale') :=
      Nat.mul_le_mul_left _ (Nat.mul_le_mul_left _ (Nat.pow_le_pow_right (by decide) hless))

variable (hpos : 0 < denominator)

include hpos

theorem lt_step_of_scaleOf (numerator : Nat) :
    numerator < 2 ^ 53 * (denominator * 2 ^ scaleOf numerator denominator) := by
  have hlog : numerator / denominator < 2 ^ ((numerator / denominator).log2 + 1) :=
    Nat.lt_log2_self
  have hpow : 2 ^ ((numerator / denominator).log2 + 1) ≤
      2 ^ (53 + scaleOf numerator denominator) := by
    apply Nat.pow_le_pow_right (by decide)
    rw [scaleOf]
    omega
  have hquotient := Nat.lt_of_lt_of_le hlog hpow
  rw [Nat.div_lt_iff_lt_mul hpos] at hquotient
  calc numerator < 2 ^ (53 + scaleOf numerator denominator) * denominator := hquotient
    _ = 2 ^ 53 * (denominator * 2 ^ scaleOf numerator denominator) := by rw [Nat.pow_add]; ring

/-- Above the least scale the top bit of the significand is set. -/
theorem step_le_of_scaleOf (numerator : Nat) (hscale : scaleOf numerator denominator ≠ 0) :
    2 ^ 52 * (denominator * 2 ^ scaleOf numerator denominator) ≤ numerator := by
  have hlog : (numerator / denominator).log2 = 52 + scaleOf numerator denominator := by
    rw [scaleOf] at hscale ⊢
    omega
  have hne : numerator / denominator ≠ 0 := by
    intro hzero
    rw [hzero, Nat.log2_zero] at hlog
    omega
  have hquotient := Nat.log2_self_le hne
  rw [hlog, Nat.le_div_iff_mul_le hpos] at hquotient
  calc 2 ^ 52 * (denominator * 2 ^ scaleOf numerator denominator)
      = 2 ^ (52 + scaleOf numerator denominator) * denominator := by rw [Nat.pow_add]; ring
    _ ≤ numerator := hquotient

theorem scaleOf_le_scaleOf (hle : numerator ≤ larger) :
    scaleOf numerator denominator ≤ scaleOf larger denominator := by
  by_contra hnot
  have hless := Nat.lt_of_not_le hnot
  have hbelow := lt_step_of_scaleOf hpos larger
  have habove := step_le_of_scaleOf hpos numerator (by omega)
  have hbetween := top_le_bottom denominator hless
  omega

theorem step_pos (scale : Nat) : 0 < denominator * 2 ^ scale :=
  Nat.mul_pos hpos (Nat.two_pow_pos scale)

theorem significand_le (numerator : Nat) :
    roundToEven numerator (denominator * 2 ^ scaleOf numerator denominator) ≤ 2 ^ 53 :=
  roundToEven_le (Nat.le_of_lt (lt_step_of_scaleOf hpos numerator)) (step_pos hpos _)

theorem le_significand (numerator : Nat) (hscale : scaleOf numerator denominator ≠ 0) :
    2 ^ 52 ≤ roundToEven numerator (denominator * 2 ^ scaleOf numerator denominator) :=
  le_roundToEven (step_le_of_scaleOf hpos numerator hscale) (step_pos hpos _)

/-- A larger number has no smaller nearest double. -/
theorem roundedSize_le_roundedSize (hle : numerator ≤ larger) :
    roundedSize numerator denominator ≤ roundedSize larger denominator := by
  rw [roundedSize, roundedSize]
  rcases Nat.lt_or_eq_of_le (scaleOf_le_scaleOf hpos hle) with hless | hsame
  · calc roundToEven numerator (denominator * 2 ^ scaleOf numerator denominator) *
          2 ^ scaleOf numerator denominator
        ≤ 2 ^ 53 * 2 ^ scaleOf numerator denominator :=
          Nat.mul_le_mul_right _ (significand_le hpos numerator)
      _ ≤ 2 ^ 52 * 2 ^ scaleOf larger denominator := by simpa using top_le_bottom 1 hless
      _ ≤ roundToEven larger (denominator * 2 ^ scaleOf larger denominator) *
          2 ^ scaleOf larger denominator :=
          Nat.mul_le_mul_right _ (le_significand hpos larger (by omega))
  · rw [hsame]
    exact Nat.mul_le_mul_right _ (roundToEven_le_roundToEven hle)

/-- Below the last scale every number has a nearest double. -/
theorem exists_nearest? (negative : Bool) (hscale : scaleOf numerator denominator < 2045) :
    ∃ x, nearest? negative numerator denominator = some x ∧ x.negative = negative ∧
      x.size = roundedSize numerator denominator := by
  have hle := significand_le hpos numerator
  have hge := le_significand hpos numerator
  have hnearest : nearest? negative numerator denominator =
      (if roundToEven numerator (denominator * 2 ^ scaleOf numerator denominator) = 2 ^ 53 then
        ofParts? negative (2 ^ 52) (scaleOf numerator denominator + 1)
      else ofParts? negative
        (roundToEven numerator (denominator * 2 ^ scaleOf numerator denominator))
        (scaleOf numerator denominator)) :=
    rfl
  rw [hnearest, roundedSize]
  generalize roundToEven numerator (denominator * 2 ^ scaleOf numerator denominator) =
    significand at *
  generalize scaleOf numerator denominator = scale at *
  split
  next htop =>
    have hparts : 2 ^ 52 < 2 ^ 53 ∧ scale + 1 ≤ 2045 ∧ (scale + 1 = 0 ∨ 2 ^ 52 ≤ 2 ^ 52) :=
      ⟨by norm_num, by omega, .inr (Nat.le_refl _)⟩
    have hsize : 2 ^ 52 * 2 ^ (scale + 1) = significand * 2 ^ scale := by
      rw [htop, Nat.pow_succ]
      ring
    exact ⟨⟨negative, 2 ^ 52, scale + 1, hparts⟩, dif_pos hparts, rfl, hsize⟩
  next htop =>
    have hparts : significand < 2 ^ 53 ∧ scale ≤ 2045 ∧ (scale = 0 ∨ 2 ^ 52 ≤ significand) := by
      refine ⟨by omega, by omega, ?_⟩
      by_cases hzero : scale = 0
      · exact .inl hzero
      · exact .inr (hge hzero)
    exact ⟨⟨negative, significand, scale, hparts⟩, dif_pos hparts, rfl, rfl⟩

/-- What is a whole number of steps at its scale is a double. -/
theorem roundedSize_eq_of_dvd (hdvd : denominator * 2 ^ scaleOf numerator denominator ∣ numerator) :
    roundedSize numerator denominator * denominator = numerator := by
  have hround := roundToEven_mul
    (numerator / (denominator * 2 ^ scaleOf numerator denominator))
    (step_pos hpos (scaleOf numerator denominator))
  rw [Nat.div_mul_cancel hdvd] at hround
  rw [roundedSize, hround, Nat.mul_assoc, Nat.mul_comm (2 ^ _), Nat.div_mul_cancel hdvd]

end Nearest

/-! ## Whole numbers -/

theorem scaleOf_mul_pow_le {whole : Nat} (hwhole : whole ≤ 2 ^ 64) (scale : Nat) :
    scaleOf (whole * 2 ^ scale) 1 ≤ scale + 12 := by
  by_contra hnot
  have habove := step_le_of_scaleOf Nat.one_pos (whole * 2 ^ scale) (by omega)
  have hbetween := top_le_bottom 1 (Nat.lt_of_not_le hnot)
  have hbelow : whole * 2 ^ scale ≤ 2 ^ 64 * 2 ^ scale := Nat.mul_le_mul_right _ hwhole
  have hpos := Nat.two_pow_pos scale
  rw [Nat.pow_add] at hbetween
  omega

/-- A whole number of at most 53 bits, at any scale, is a double. -/
theorem roundedSize_mul_pow {whole : Nat} (hwhole : whole ≤ 2 ^ 53) (scale : Nat) :
    roundedSize (whole * 2 ^ scale) 1 = whole * 2 ^ scale := by
  have hfits {whole scale : Nat} (hwhole : whole < 2 ^ 53) :
      roundedSize (whole * 2 ^ scale) 1 = whole * 2 ^ scale := by
    have hscale : scaleOf (whole * 2 ^ scale) 1 ≤ scale := by
      by_contra hnot
      have hless := Nat.lt_of_not_le hnot
      have hbetween := top_le_bottom 1 hless
      have habove := step_le_of_scaleOf Nat.one_pos (whole * 2 ^ scale) (by omega)
      have hbelow : whole * 2 ^ scale < 2 ^ 53 * 2 ^ scale :=
        Nat.mul_lt_mul_of_pos_right hwhole (Nat.two_pow_pos scale)
      omega
    have hdvd : 1 * 2 ^ scaleOf (whole * 2 ^ scale) 1 ∣ whole * 2 ^ scale := by
      rw [Nat.one_mul]
      exact Nat.dvd_mul_left_of_dvd (Nat.pow_dvd_pow 2 hscale) whole
    simpa using roundedSize_eq_of_dvd Nat.one_pos hdvd
  rcases Nat.lt_or_eq_of_le hwhole with hless | rfl
  · exact hfits hless
  · -- The power of two itself needs one bit more, and has it at the next scale.
    have hnext : 2 ^ 53 * 2 ^ scale = 2 ^ 52 * 2 ^ (scale + 1) := by
      rw [Nat.pow_succ]
      ring
    rw [hnext]
    exact hfits (by norm_num)

/-- The double nearest to `n · 2 ^ scale` units of 2⁻¹⁰⁷⁴, counted in these units. -/
def roundedInt (scale : Nat) (n : Int) : Int :=
  if n < 0 then -(roundedSize (n.natAbs * 2 ^ scale) 1 : Int)
  else roundedSize (n.natAbs * 2 ^ scale) 1

section Integers

variable {scale : Nat} {m n : Int}

/-- The nearest doubles of whole numbers stand in the order of these, though two may be one. -/
theorem roundedInt_le_roundedInt (hle : m ≤ n) : roundedInt scale m ≤ roundedInt scale n := by
  have hsizes {k l : Nat} (hkl : k ≤ l) :
      roundedSize (k * 2 ^ scale) 1 ≤ roundedSize (l * 2 ^ scale) 1 :=
    roundedSize_le_roundedSize Nat.one_pos (Nat.mul_le_mul_right _ hkl)
  unfold roundedInt
  split
  next hm =>
    split
    next hn =>
      have hsize := hsizes (show n.natAbs ≤ m.natAbs by omega)
      omega
    next hn => omega
  next hm =>
    have hsize := hsizes (show m.natAbs ≤ n.natAbs by omega)
    rw [if_neg (by omega)]
    omega

/-- A whole number of at most 53 bits is its own nearest double. -/
theorem roundedInt_eq (hn : n.natAbs ≤ 2 ^ 53) : roundedInt scale n = n * (2 ^ scale : Nat) := by
  rw [roundedInt, roundedSize_mul_pow hn, Nat.cast_mul]
  split
  next hneg =>
    rw [← Int.neg_mul]
    congr 1
    omega
  next hneg =>
    congr 1
    omega

theorem roundedInt_le_iff (hm : m.natAbs ≤ 2 ^ 53) (hn : n.natAbs ≤ 2 ^ 53) :
    roundedInt scale m ≤ roundedInt scale n ↔ m ≤ n := by
  have hpos : 0 < ((2 ^ scale : Nat) : Int) := Nat.cast_pos.mpr (Nat.two_pow_pos scale)
  rw [roundedInt_eq hm, roundedInt_eq hn]
  exact mul_le_mul_iff_left₀ hpos

theorem lt_of_roundedInt_lt (hless : roundedInt scale m < roundedInt scale n) : m < n :=
  lt_of_not_ge fun hle => absurd hless (not_lt.mpr (roundedInt_le_roundedInt hle))

theorem roundedInt_lt_iff (hm : m.natAbs ≤ 2 ^ 53) (hn : n.natAbs ≤ 2 ^ 53) :
    roundedInt scale m < roundedInt scale n ↔ m < n :=
  lt_iff_lt_of_le_iff_le (roundedInt_le_iff hn hm)

theorem roundedInt_inj (hm : m.natAbs ≤ 2 ^ 53) (hn : n.natAbs ≤ 2 ^ 53) :
    roundedInt scale m = roundedInt scale n ↔ m = n := by
  rw [le_antisymm_iff, roundedInt_le_iff hm hn, roundedInt_le_iff hn hm, ← le_antisymm_iff]

theorem exists_nearest?_int (scale : Nat) (hscale : scale < 2033) (hn : n.natAbs ≤ 2 ^ 64) :
    ∃ x, nearest? (n < 0) (n.natAbs * 2 ^ scale) 1 = some x ∧ x.units = roundedInt scale n := by
  have hbound : scaleOf (n.natAbs * 2 ^ scale) 1 < 2045 :=
    Nat.lt_of_le_of_lt (scaleOf_mul_pow_le hn scale) (by omega)
  obtain ⟨x, hx, hnegative, hsize⟩ := exists_nearest? Nat.one_pos (n < 0) hbound
  refine ⟨x, hx, ?_⟩
  simp only [units, hnegative, hsize, roundedInt, decide_eq_true_eq]

/-- Every integer of 64 bits has a nearest double. -/
theorem exists_ofInt? (hn : n.natAbs ≤ 2 ^ 64) :
    ∃ x, ofInt? n = some x ∧ x.units = roundedInt 1074 n :=
  exists_nearest?_int 1074 (by decide) hn

end Integers

end TableFilter.Decimal.Binary64
