import TableFilter.Preview
import TableFilter.Proofs.Decimal.FreeText
import TableFilter.Proofs.Decimal.Integer

/-!
# Comparisons

How equality and order fit each other in a preview, where cells and scalars are compared as doubles
or as texts, and how the order of doubles fits that of the integers they are nearest to. Main
statements: the two sides of a comparison can change places and no two comparisons hold at once
(`comparisons_are_coherent`), and no comparison of integers holds that is wrong by more than what
rounding hides (`integers_compare_up_to_rounding`).
-/

namespace TableFilter.Preview

open Decimal (Binary64)
open Decimal.Binary64 (roundedInt)
open Json (Value Number)

/-! ## Cells that hold a scalar -/

/-- The cell that holds a scalar. -/
def cellOf (a : Scalar) : Option Value :=
  if a.isNull then none else some a.toValue

section Scalars

variable (a b : Scalar)

theorem cell?_of_get? {row : Row} {column : Identifier} {a : Scalar}
    (hcell : Entries.get? column.name row = some a.toValue) : cell? row column = cellOf a := by
  rw [cell?, hcell]
  cases a <;> rfl

theorem cellDouble?_toValue : cellDouble? a.toValue = a.toDouble? := by
  rw [cellDouble?, Scalar.ofValue?_toValue, Option.bind_some]

theorem cellKey_toValue : cellKey a.toValue = scalarKey a := by
  cases a <;> rfl

theorem compares_cellOf (test : Binary64 → Binary64 → Bool) :
    compares (cellOf a) b test =
      match a.toDouble?, b.toDouble? with
      | some x, some y => test x y
      | _, _ => false := by
  have hdouble : (cellOf a).bind cellDouble? = a.toDouble? := by
    cases a <;> rfl
  rewrite [compares, hdouble]
  rfl

theorem compares_of_toDouble? {a b : Scalar} {x y : Binary64} (hx : a.toDouble? = some x)
    (hy : b.toDouble? = some y) (test : Binary64 → Binary64 → Bool) :
    compares (cellOf a) b test = test x y := by
  rw [compares_cellOf, hx, hy]

/-- What stands on the two sides of a comparison may change places. -/
theorem compares_cellOf_comm (test : Binary64 → Binary64 → Bool) :
    compares (cellOf a) b test = compares (cellOf b) a fun x y => test y x := by
  rw [compares_cellOf, compares_cellOf]
  cases a.toDouble? <;> cases b.toDouble? <;> rfl

/-! ## Equality -/

/-- Whether two scalars are equal as one of them in a cell and the other looked for. -/
def sameScalar : Bool :=
  if isNumber a.toValue || isNumber b.toValue then
    match a.toDouble?, b.toDouble? with
    | some x, some y => x.equals y
    | _, _ => scalarKey a == scalarKey b
  else scalarKey a == scalarKey b

theorem sameValue_toValue : sameValue a.toValue b = sameScalar a b := by
  rw [sameValue, cellDouble?_toValue, cellKey_toValue]
  rfl

theorem sameScalar_comm : sameScalar a b = sameScalar b a := by
  have hkeys : (scalarKey a == scalarKey b) = (scalarKey b == scalarKey a) := Bool.beq_comm ..
  rw [sameScalar, sameScalar, Bool.or_comm, hkeys]
  cases a.toDouble? <;> cases b.toDouble? <;> simp only [Binary64.equals, Bool.beq_comm]

theorem sameScalar_self : sameScalar a a = true := by
  rw [sameScalar]
  cases a.toDouble? <;> simp [Binary64.equals]

theorem equals_cellOf :
    equals (cellOf a) b =
      if a.isNull || b.isNull then a.isNull && b.isNull else sameScalar a b := by
  cases a with
  | null => cases b <;> rfl
  | _ =>
    cases b with
    | null => rfl
    | _ => exact sameValue_toValue _ _

theorem equals_cellOf_comm : equals (cellOf a) b = equals (cellOf b) a := by
  rw [equals_cellOf, equals_cellOf, sameScalar_comm, Bool.or_comm, Bool.and_comm]

theorem equals_cellOf_self : equals (cellOf a) a = true := by
  rw [equals_cellOf, sameScalar_self]
  cases a.isNull <;> rfl

/-! ## Equality and order -/

theorem exists_letter_bool (b : Bool) :
    ∃ c ∈ scalarKey (.bool b), Text.isBlank c = false ∧ Json.isNumberChar c = false := by
  cases b with
  | true => exact ⟨'t', by decide +kernel⟩
  | false => exact ⟨'f', by decide +kernel⟩

/-- A truth value and a text that stands for a number differ as texts. -/
theorem scalarKey_bool_ne {b : Bool} {s : String} {x : Binary64}
    (hx : (Scalar.string s).toDouble? = some x) : scalarKey (.bool b) ≠ scalarKey (.string s) := by
  intro heq
  obtain ⟨c, hc, hblank, hnumber⟩ := exists_letter_bool b
  rw [heq] at hc
  rcases Decimal.isBlank_or_isNumberChar_of_mem_lowerChars hx c hc with h | h
  · rw [hblank] at h
    cases h
  · rw [hnumber] at h
    cases h

theorem scalarKey_bool_injective {b c : Bool} (heq : scalarKey (.bool b) = scalarKey (.bool c)) :
    b = c := by
  revert b c
  decide +kernel

variable {a b} {x y : Binary64}

/-- Scalars that are equal as texts stand for one number, if they stand for numbers at all. -/
theorem toDouble?_eq_of_scalarKey_eq (ha : isNumber a.toValue = false)
    (hb : isNumber b.toValue = false) (hx : a.toDouble? = some x) (hy : b.toDouble? = some y)
    (hkey : scalarKey a = scalarKey b) : x = y := by
  cases a with
  | null => cases hx
  | number => cases ha
  | bool t =>
    cases b with
    | null => cases hy
    | number => cases hb
    | bool u =>
      rw [scalarKey_bool_injective hkey, hy] at hx
      exact (Option.some.inj hx).symm
    | string u => exact absurd hkey (scalarKey_bool_ne hy)
  | string s =>
    cases b with
    | null => cases hy
    | number => cases hb
    | bool u => exact absurd hkey.symm (scalarKey_bool_ne hx)
    | string t => exact Decimal.ofText?_eq_of_lowerChars_eq hx hy hkey

theorem isNull_eq_false_of_toDouble? (hx : a.toDouble? = some x) : a.isNull = false := by
  cases a with
  | null => cases hx
  | _ => rfl

/-- Scalars that stand for numbers are compared by these if one of them is a number itself. -/
theorem equals_of_toDouble? (hx : a.toDouble? = some x) (hy : b.toDouble? = some y) :
    equals (cellOf a) b =
      if isNumber a.toValue || isNumber b.toValue then x.units == y.units
      else scalarKey a == scalarKey b := by
  rw [equals_cellOf, isNull_eq_false_of_toDouble? hx, isNull_eq_false_of_toDouble? hy, sameScalar,
    hx, hy]
  rfl

/-- Equal scalars stand for equal numbers, if they stand for numbers at all. -/
theorem units_eq_of_equals (hx : a.toDouble? = some x) (hy : b.toDouble? = some y)
    (hequal : equals (cellOf a) b = true) : x.units = y.units := by
  rw [equals_of_toDouble? hx hy] at hequal
  split at hequal
  next => exact beq_iff_eq.mp hequal
  next hneither =>
    obtain ⟨ha, hb⟩ := Bool.or_eq_false_iff.mp (Bool.of_not_eq_true hneither)
    rw [toDouble?_eq_of_scalarKey_eq ha hb hx hy (beq_iff_eq.mp hequal)]

/-- Of equality and the two orders at most one holds. -/
theorem toNat_equals_add_le :
    (equals (cellOf a) b).toNat + (compares (cellOf a) b fun x y => y.lessThan x).toNat +
      (compares (cellOf a) b fun x y => x.lessThan y).toNat ≤ 1 := by
  rw [compares_cellOf, compares_cellOf]
  split
  next x y hx hy =>
    have hequal := units_eq_of_equals hx hy
    cases heq : equals (cellOf a) b with
    | false =>
      simp only [Binary64.lessThan, Bool.toNat_false]
      rcases lt_trichotomy x.units y.units with h | h | h <;> simp [h, h.le]
    | true => simp [Binary64.lessThan, hequal heq]
  -- Where one of the two stands for no number, neither order holds.
  next => simpa using Bool.toNat_le _

/-- Of equality and the two orders one holds where equality is that of numbers. -/
theorem toNat_equals_add_eq (hx : a.toDouble? = some x) (hy : b.toDouble? = some y)
    (hnumber : (isNumber a.toValue || isNumber b.toValue) = true) :
    (equals (cellOf a) b).toNat + (compares (cellOf a) b fun x y => y.lessThan x).toNat +
      (compares (cellOf a) b fun x y => x.lessThan y).toNat = 1 := by
  rw [equals_of_toDouble? hx hy, if_pos hnumber, compares_cellOf, compares_cellOf, hx, hy]
  simp only [Binary64.lessThan]
  rcases lt_trichotomy x.units y.units with h | h | h
  · simp [h, h.ne, lt_asymm h]
  · simp [h]
  · simp [h, h.ne', lt_asymm h]

end Scalars

/-- How many of the three comparisons with a scalar a row meets. -/
def comparisonsMet (options : Options) (row : Row) (column : Identifier) (b : Scalar) : Nat :=
  [Operator.equals b, .greaterThan b, .lessThan b].countP fun o =>
    meetsPredicate options row ⟨column, o⟩

theorem comparisonsMet_eq (options : Options) {row : Row} {column : Identifier} {a : Scalar}
    (hcell : Entries.get? column.name row = some a.toValue) (b : Scalar) :
    comparisonsMet options row column b =
      (equals (cellOf a) b).toNat + (compares (cellOf a) b fun x y => y.lessThan x).toNat +
        (compares (cellOf a) b fun x y => x.lessThan y).toNat := by
  have hone : ∀ met : Bool, (if met = true then 1 else 0) = met.toNat := by decide
  simp only [comparisonsMet, meetsPredicate, meets, cell?_of_get? hcell, List.countP_cons,
    List.countP_nil, hone]
  omega

/-- A scalar equals itself; equality goes both ways, and one scalar is greater than another just if
the other one is less than it. At most one of the three comparisons holds, and one does if both
scalars stand for numbers and one of them is a number. -/
theorem comparisons_are_coherent (options : Options) {rowA rowB : Row} {column : Identifier}
    {a b : Scalar} (hA : Entries.get? column.name rowA = some a.toValue)
    (hB : Entries.get? column.name rowB = some b.toValue) :
    meetsPredicate options rowA ⟨column, .equals a⟩ = true ∧
    meetsPredicate options rowA ⟨column, .equals b⟩ =
      meetsPredicate options rowB ⟨column, .equals a⟩ ∧
    meetsPredicate options rowA ⟨column, .greaterThan b⟩ =
      meetsPredicate options rowB ⟨column, .lessThan a⟩ ∧
    comparisonsMet options rowA column b ≤ 1 ∧
    ((∃ n, a = .number n) ∨ (∃ n, b = .number n) → a.toDouble?.isSome = true →
      b.toDouble?.isSome = true → comparisonsMet options rowA column b = 1) := by
  rw [comparisonsMet_eq options hA]
  simp only [meetsPredicate, meets, cell?_of_get? hA, cell?_of_get? hB]
  refine ⟨equals_cellOf_self a, equals_cellOf_comm a b, compares_cellOf_comm a b _,
    toNat_equals_add_le, fun hnumber ha hb => ?_⟩
  obtain ⟨x, hx⟩ := Option.isSome_iff_exists.mp ha
  obtain ⟨y, hy⟩ := Option.isSome_iff_exists.mp hb
  apply toNat_equals_add_eq hx hy
  rcases hnumber with ⟨n, rfl⟩ | ⟨n, rfl⟩
  · rfl
  · exact Bool.or_true _

/-- A number and a text that stands for it, blanks and an upper-case exponent aside. -/
theorem number_equals_its_numeral :
    (Scalar.number (.ofWord 10)).toDouble?.isSome = true ∧
      (Scalar.string " 1E1 ").toDouble?.isSome = true ∧
      meetsPredicate ⟨false⟩ [("price", .number (.ofWord 10))]
          ⟨⟨"price", by decide⟩, .equals (.string " 1E1 ")⟩ =
        meetsPredicate ⟨false⟩ [("price", .string " 1E1 ")]
          ⟨⟨"price", by decide⟩, .equals (.number (.ofWord 10))⟩ ∧
      comparisonsMet ⟨false⟩ [("price", .number (.ofWord 10))] ⟨"price", by decide⟩
        (.string " 1E1 ") = 1 := by
  have hnumber : (Scalar.number (.ofWord 10)).toDouble?.isSome = true := by decide +kernel
  have hstring : (Scalar.string " 1E1 ").toDouble?.isSome = true := by decide +kernel
  let column : Identifier := ⟨"price", by decide⟩
  have hA : Entries.get? column.name [("price", Value.number (.ofWord 10))] =
      some (Scalar.number (.ofWord 10)).toValue := rfl
  have hB : Entries.get? column.name [("price", Value.string " 1E1 ")] =
      some (Scalar.string " 1E1 ").toValue := rfl
  have hcoherent := comparisons_are_coherent ⟨false⟩ hA hB
  exact ⟨hnumber, hstring, hcoherent.2.1, hcoherent.2.2.2.2 (.inl ⟨_, rfl⟩) hnumber hstring⟩

/-! ## Integers -/

-- Powers are those of the core library, as in the definition of doubles.
attribute [local instance (2000)] instPowNat

/-- An integer of 64 bits, with or without a sign, as a scalar. -/
def integer (n : Int) (bounded : -2 ^ (63 : Nat) ≤ n ∧ n < 2 ^ (64 : Nat)) : Scalar :=
  .number (.integer n bounded)

section Integers

variable {a b low high : Int} (ha : -2 ^ (63 : Nat) ≤ a ∧ a < 2 ^ (64 : Nat))
  (hb : -2 ^ (63 : Nat) ≤ b ∧ b < 2 ^ (64 : Nat))
  (hlow : -2 ^ (63 : Nat) ≤ low ∧ low < 2 ^ (64 : Nat))
  (hhigh : -2 ^ (63 : Nat) ≤ high ∧ high < 2 ^ (64 : Nat))

theorem exists_toDouble?_integer :
    ∃ x, (integer a ha).toDouble? = some x ∧ x.units = roundedInt 1074 a := by
  have hdouble : (integer a ha).toDouble? = Binary64.ofInt? a := rfl
  rw [hdouble]
  exact Binary64.exists_ofInt? (by omega)

/-- Integers are compared by the doubles that they are nearest to. -/
theorem exists_compares_integers :
    ∃ x y : Binary64, x.units = roundedInt 1074 a ∧ y.units = roundedInt 1074 b ∧
      equals (cellOf (integer a ha)) (integer b hb) = (x.units == y.units) ∧
      ∀ test, compares (cellOf (integer a ha)) (integer b hb) test = test x y := by
  obtain ⟨x, hx, hxa⟩ := exists_toDouble?_integer ha
  obtain ⟨y, hy, hyb⟩ := exists_toDouble?_integer hb
  exact ⟨x, y, hxa, hyb, equals_of_toDouble? hx hy, compares_of_toDouble? hx hy⟩

theorem equals_integer_iff :
    equals (cellOf (integer a ha)) (integer b hb) = true ↔
      roundedInt 1074 a = roundedInt 1074 b := by
  obtain ⟨x, y, hx, hy, hequals, -⟩ := exists_compares_integers ha hb
  rw [hequals, beq_iff_eq, hx, hy]

theorem compares_greater_iff :
    compares (cellOf (integer a ha)) (integer b hb) (fun x y => y.lessThan x) = true ↔
      roundedInt 1074 b < roundedInt 1074 a := by
  obtain ⟨x, y, hx, hy, -, hcompares⟩ := exists_compares_integers ha hb
  rw [hcompares, ← hx, ← hy]
  exact decide_eq_true_iff

theorem compares_less_iff :
    compares (cellOf (integer a ha)) (integer b hb) (fun x y => x.lessThan y) = true ↔
      roundedInt 1074 a < roundedInt 1074 b := by
  rw [compares_cellOf_comm, compares_greater_iff]

theorem isBetween_integers_iff :
    isBetween (cellOf (integer a ha)) ⟨some (integer low hlow), some (integer high hhigh)⟩ = true ↔
      roundedInt 1074 low ≤ roundedInt 1074 a ∧ roundedInt 1074 a ≤ roundedInt 1074 high := by
  obtain ⟨x, y, hx, hy, -, hcomparesLow⟩ := exists_compares_integers ha hlow
  obtain ⟨z, w, hz, hw, -, hcomparesHigh⟩ := exists_compares_integers ha hhigh
  simp only [isBetween, hcomparesLow, hcomparesHigh, Binary64.lessThan, Bool.and_eq_true,
    Bool.not_eq_true', decide_eq_false_iff_not, hx, hy, hz, hw, not_lt]

end Integers

/-- Rounding hides differences of integers and never turns one round: where a comparison holds in a
preview that asks for a difference it holds of the integers, and where one holds of the integers
that allows for equality it holds in the preview. Integers of 53 bits are compared exactly. -/
theorem integers_compare_up_to_rounding (options : Options) {row : Row} {column : Identifier}
    {a b low high : Int} (ha : -2 ^ (63 : Nat) ≤ a ∧ a < 2 ^ (64 : Nat))
    (hb : -2 ^ (63 : Nat) ≤ b ∧ b < 2 ^ (64 : Nat))
    (hlow : -2 ^ (63 : Nat) ≤ low ∧ low < 2 ^ (64 : Nat))
    (hhigh : -2 ^ (63 : Nat) ≤ high ∧ high < 2 ^ (64 : Nat))
    (hcell : Entries.get? column.name row = some (integer a ha).toValue) :
    ((meetsPredicate options row ⟨column, .greaterThan (integer b hb)⟩ = true → b < a) ∧
      (meetsPredicate options row ⟨column, .lessThan (integer b hb)⟩ = true → a < b) ∧
      (a = b → meetsPredicate options row ⟨column, .equals (integer b hb)⟩ = true) ∧
      (low ≤ a ∧ a ≤ high → meetsPredicate ⟨true⟩ row
        ⟨column, .between ⟨some (integer low hlow), some (integer high hhigh)⟩⟩ = true)) ∧
    (a.natAbs ≤ 2 ^ 53 →
      (b.natAbs ≤ 2 ^ 53 →
        (meetsPredicate options row ⟨column, .greaterThan (integer b hb)⟩ = true ↔ b < a) ∧
        (meetsPredicate options row ⟨column, .lessThan (integer b hb)⟩ = true ↔ a < b) ∧
        (meetsPredicate options row ⟨column, .equals (integer b hb)⟩ = true ↔ a = b)) ∧
      (low.natAbs ≤ 2 ^ 53 → high.natAbs ≤ 2 ^ 53 → (meetsPredicate ⟨true⟩ row
        ⟨column, .between ⟨some (integer low hlow), some (integer high hhigh)⟩⟩ = true ↔
          low ≤ a ∧ a ≤ high))) := by
  simp only [meetsPredicate, meets, cell?_of_get? hcell, Bool.not_true, Bool.false_or,
    compares_greater_iff, compares_less_iff, equals_integer_iff, isBetween_integers_iff]
  refine ⟨⟨Binary64.lt_of_roundedInt_lt, Binary64.lt_of_roundedInt_lt, ?_, ?_⟩, fun haFits => ?_⟩
  · exact congrArg (roundedInt 1074)
  · exact fun ⟨hl, hh⟩ =>
      ⟨Binary64.roundedInt_le_roundedInt hl, Binary64.roundedInt_le_roundedInt hh⟩
  · constructor
    · intro hbFits
      exact ⟨Binary64.roundedInt_lt_iff hbFits haFits, Binary64.roundedInt_lt_iff haFits hbFits,
        Binary64.roundedInt_inj haFits hbFits⟩
    · intro hlowFits hhighFits
      rw [Binary64.roundedInt_le_iff hlowFits haFits, Binary64.roundedInt_le_iff haFits hhighFits]

/-- The largest integer of 53 bits is told from the one below it. -/
theorem integers_of_53_bits_are_told_apart :
    (2 ^ 53 : Int).natAbs ≤ 2 ^ 53 ∧ (2 ^ 53 - 1 : Int).natAbs ≤ 2 ^ 53 ∧
      meetsPredicate ⟨false⟩ [("size", (integer (2 ^ 53) (by decide)).toValue)]
        ⟨⟨"size", by decide⟩, .greaterThan (integer (2 ^ 53 - 1) (by decide))⟩ = true ∧
      meetsPredicate ⟨true⟩ [("size", (integer (2 ^ 53) (by decide)).toValue)]
        ⟨⟨"size", by decide⟩, .between ⟨some (integer 0 (by decide)),
          some (integer (2 ^ 53 - 1) (by decide))⟩⟩ = false := by
  let column : Identifier := ⟨"size", by decide⟩
  have htop : -2 ^ (63 : Nat) ≤ (2 ^ 53 : Int) ∧ (2 ^ 53 : Int) < 2 ^ (64 : Nat) := by decide
  have hnext : -2 ^ (63 : Nat) ≤ (2 ^ 53 - 1 : Int) ∧ (2 ^ 53 - 1 : Int) < 2 ^ (64 : Nat) := by
    decide
  have hzero : -2 ^ (63 : Nat) ≤ (0 : Int) ∧ (0 : Int) < 2 ^ (64 : Nat) := by decide
  have hcell : Entries.get? column.name [("size", (integer (2 ^ 53) htop).toValue)] =
      some (integer (2 ^ 53) htop).toValue := rfl
  obtain ⟨-, hexact⟩ := integers_compare_up_to_rounding ⟨false⟩ htop hnext hzero hnext hcell
  obtain ⟨hpair, hrange⟩ := hexact (by decide)
  have hbetween := hrange (by decide) (by decide)
  refine ⟨by decide, by decide, (hpair (by decide)).1.mpr (by decide), ?_⟩
  exact Bool.eq_false_iff.mpr fun hmeets => absurd (hbetween.mp hmeets) (by decide)

/-- With one bit more an integer is taken for its neighbour. -/
example :
    meetsPredicate ⟨false⟩ [("size", (integer (2 ^ 53 + 1) (by decide)).toValue)]
        ⟨⟨"size", by decide⟩, .greaterThan (integer (2 ^ 53) (by decide))⟩ = false ∧
      meetsPredicate ⟨false⟩ [("size", (integer (2 ^ 53 + 1) (by decide)).toValue)]
        ⟨⟨"size", by decide⟩, .equals (integer (2 ^ 53) (by decide))⟩ = true := by
  decide +kernel

end TableFilter.Preview
