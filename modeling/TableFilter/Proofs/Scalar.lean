import Mathlib.Logic.Basic
import Mathlib.Tactic.ByContra
import TableFilter.Scalar

/-!
# Scalars

Which JSON values are scalars, and when two scalars are equal as values: if they are the same but
for the sign of a zero, so equality of values is equality of what is left when that sign is dropped.
-/

namespace TableFilter

namespace Decimal.Binary64

/-- The number itself, a zero without its sign. -/
def plain (x : Binary64) : Binary64 :=
  if x.significand = 0 then zero false else x

theorem size_eq_zero_iff (x : Binary64) : x.size = 0 ↔ x.significand = 0 := by
  have hpos := Nat.two_pow_pos x.scale
  rw [size, Nat.mul_eq_zero]
  omega

theorem units_eq_zero_iff (x : Binary64) : x.units = 0 ↔ x.significand = 0 := by
  rw [← size_eq_zero_iff, units]
  split <;> omega

/-- Of two numbers of one size neither has the larger scale: above the least scale the top bit is
set, so a significand that made up for a smaller scale would not fit. -/
theorem scale_le_of_size_eq {x y : Binary64} (hsize : x.size = y.size) : y.scale ≤ x.scale := by
  by_contra hlt
  obtain ⟨more, hscale⟩ := Nat.exists_eq_add_of_lt (Nat.lt_of_not_le hlt)
  have htop : 2 ^ 52 ≤ y.significand := y.canonical.2.2.resolve_left (by omega)
  have hfits : x.significand < 2 ^ 53 := x.canonical.1
  have hsignificand : x.significand = y.significand * 2 ^ (more + 1) := by
    have hpow : y.significand * 2 ^ y.scale = y.significand * 2 ^ (more + 1) * 2 ^ x.scale := by
      rw [hscale, Nat.mul_assoc, ← Nat.pow_add]
      congr 2
      omega
    exact Nat.eq_of_mul_eq_mul_right (Nat.two_pow_pos x.scale) (hsize.trans hpow)
  have hdouble : y.significand * 2 ≤ x.significand := by
    rw [hsignificand, Nat.pow_succ, ← Nat.mul_assoc]
    exact Nat.mul_le_mul_right 2 (Nat.le_mul_of_pos_right _ (Nat.two_pow_pos more))
  omega

theorem parts_eq_of_size_eq {x y : Binary64} (hsize : x.size = y.size) :
    x.significand = y.significand ∧ x.scale = y.scale := by
  have hscale : x.scale = y.scale :=
    Nat.le_antisymm (scale_le_of_size_eq hsize.symm) (scale_le_of_size_eq hsize)
  refine ⟨?_, hscale⟩
  rw [size, size, hscale] at hsize
  exact Nat.eq_of_mul_eq_mul_right (Nat.two_pow_pos y.scale) hsize

/-- A value other than zero has one form. -/
theorem eq_of_units_eq {x y : Binary64} (hunits : x.units = y.units) (hx : x.significand ≠ 0) :
    x = y := by
  have hsize := (size_eq_zero_iff x).not.mpr hx
  have hparts : x.negative = y.negative ∧ x.size = y.size := by
    rw [units, units] at hunits
    cases hneg : x.negative <;> cases hneg' : y.negative <;>
      simp only [hneg, hneg', if_true, if_false, reduceCtorEq, true_and, false_and] at hunits ⊢ <;>
      omega
  obtain ⟨hsignificand, hscale⟩ := parts_eq_of_size_eq hparts.2
  obtain ⟨negative, significand, scale, _⟩ := x
  obtain ⟨negative', significand', scale', _⟩ := y
  obtain rfl : negative = negative' := hparts.1
  obtain rfl : significand = significand' := hsignificand
  obtain rfl : scale = scale' := hscale
  rfl

theorem equals_iff (x y : Binary64) : x.equals y = true ↔ x.plain = y.plain := by
  rw [equals, beq_iff_eq, plain, plain]
  have hzero (z : Binary64) (hz : z.significand ≠ 0) : z ≠ zero false := by
    rintro rfl
    exact hz rfl
  by_cases hx : x.significand = 0
  · have hunits := (units_eq_zero_iff x).mpr hx
    by_cases hy : y.significand = 0
    · simp [hx, hy, hunits, (units_eq_zero_iff y).mpr hy]
    · have hunits' := (units_eq_zero_iff y).not.mpr hy
      simp [hx, hy, hunits, Ne.symm hunits', Ne.symm (hzero y hy)]
  · by_cases hy : y.significand = 0
    · have hunits := (units_eq_zero_iff x).not.mpr hx
      simp [hx, hy, hunits, (units_eq_zero_iff y).mpr hy, hzero x hx]
    · rw [if_neg hx, if_neg hy]
      exact ⟨fun hunits => eq_of_units_eq hunits hx, congrArg units⟩

end Decimal.Binary64

namespace Json.Number

def plain : Number → Number
  | .integer n bounded => .integer n bounded
  | .double x => .double x.plain

theorem equals_iff (m n : Number) : m.equals n = true ↔ m.plain = n.plain := by
  cases m <;> cases n <;> simp [equals, plain, Decimal.Binary64.equals_iff]

end Json.Number

/-- Whether a value is neither an array nor an object. -/
def Json.Value.isScalar : Json.Value → Bool
  | .array _ | .object _ => false
  | _ => true

namespace Scalar

theorem isNull_eq_false_iff (v : Scalar) : v.isNull = false ↔ v ≠ .null := by
  cases v <;> simp [isNull]

theorem isScalar_toValue (v : Scalar) : v.toValue.isScalar = true := by
  cases v <;> rfl

@[simp]
theorem toValue_ne_array (v : Scalar) (values : List Json.Value) : v.toValue ≠ .array values := by
  cases v <;> nofun

@[simp]
theorem toValue_ne_object (v : Scalar) (members : List (String × Json.Value)) :
    v.toValue ≠ .object members := by
  cases v <;> nofun

theorem ofValue?_eq_some_iff (value : Json.Value) (v : Scalar) :
    ofValue? value = some v ↔ v.toValue = value := by
  constructor
  · intro hof
    cases value <;> cases hof <;> rfl
  · rintro rfl
    exact ofValue?_toValue v

theorem exists_toValue_eq {value : Json.Value} (hscalar : value.isScalar = true) :
    ∃ v : Scalar, v.toValue = value := by
  cases value with
  | null => exact ⟨.null, rfl⟩
  | bool b => exact ⟨.bool b, rfl⟩
  | number n => exact ⟨.number n, rfl⟩
  | string s => exact ⟨.string s, rfl⟩
  | array items => cases hscalar
  | object members => cases hscalar

theorem exists_map_toValue_eq {values : List Json.Value}
    (hscalar : ∀ value ∈ values, value.isScalar = true) :
    ∃ items : List Scalar, items.map toValue = values := by
  induction values with
  | nil => exact ⟨[], rfl⟩
  | cons value rest ih =>
    rw [List.forall_mem_cons] at hscalar
    obtain ⟨v, rfl⟩ := exists_toValue_eq hscalar.1
    obtain ⟨items, rfl⟩ := ih hscalar.2
    exact ⟨v :: items, rfl⟩

/-- The scalar itself, a zero without its sign. -/
def plain : Scalar → Scalar
  | .number n => .number n.plain
  | v => v

theorem equals_iff (v w : Scalar) : v.equals w = true ↔ v.plain = w.plain := by
  cases v <;> cases w <;> simp [equals, plain, Json.Number.equals_iff]

theorem listEquals_iff (vs ws : List Scalar) :
    listEquals vs ws = true ↔ vs.map plain = ws.map plain := by
  induction vs generalizing ws with
  | nil => cases ws <;> simp [listEquals]
  | cons v vs ih => cases ws <;> simp [listEquals, equals_iff, ih]

theorem optionEquals_iff (v w : Option Scalar) :
    optionEquals v w = true ↔ v.map plain = w.map plain := by
  cases v <;> cases w <;> simp [optionEquals, equals_iff]

end Scalar

end TableFilter
