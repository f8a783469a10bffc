import Mathlib.Tactic.SplitIfs
import TableFilter.Preview
import TableFilter.Proofs.Scalar
import TableFilter.Proofs.Sql.Truth

/-!
# Membership with a third value

Whether a cell is one of several scalars may be unknown: nothing is known of a cell that is null,
and a null among the scalars may stand for any value. Main statement: a preview keeps a row for a
list exactly if its cell is known to be in the list, and for a negated list exactly if the cell is
known not to be, `rows_in_list_are_known`.
-/

namespace TableFilter

open Json (Value)
open Sql (Truth)

/-- Whether the cell of a column is missing or null. -/
def Row.isNullAt (row : Row) (column : Identifier) : Bool :=
  match Entries.get? column.name row with
  | none | some .null => true
  | some _ => false

namespace Preview

theorem isNullAt_eq (row : Row) (column : Identifier) :
    Row.isNullAt row column = (cell? row column).isNone := by
  rw [Row.isNullAt, cell?]
  rcases Entries.get? column.name row with _ | cell
  · rfl
  · cases cell <;> rfl

/-! ## Cells -/

section Cells

variable (cell : Option Value) (items : List Scalar)

theorem isMember_eq_true_iff :
    isMember cell items = true ↔ ∃ v ∈ items, v ≠ .null ∧ equals cell v = true := by
  simp only [isMember, List.any_eq_true, Bool.and_eq_true, Bool.not_eq_true',
    Scalar.isNull_eq_false_iff]

/-- A cell is outside of a list if it is there and each item is known to differ from it. -/
theorem notMember_eq_true_iff :
    notMember cell items = true ↔
      ∀ v ∈ items, cell.isSome = true ∧ v.isNull = false ∧ equals cell v = false := by
  have hnonempty (hne : items ≠ []) : notMember cell items = true ↔
      cell.isSome = true ∧ (∀ v ∈ items, v.isNull = false) ∧
        ∀ v ∈ items, v.isNull = false → equals cell v = false := by
    simp [notMember, isMember, hne, and_assoc]
  by_cases hne : items = []
  · subst hne
    simp [notMember]
  · rw [hnonempty hne]
    constructor
    · rintro ⟨hcell, hnull, hequals⟩ v hv
      exact ⟨hcell, hnull v hv, hequals v hv (hnull v hv)⟩
    · intro hall
      obtain ⟨v, hv⟩ := List.exists_mem_of_ne_nil items hne
      exact ⟨(hall v hv).1, fun w hw => (hall w hw).2.1, fun w hw _ => (hall w hw).2.2⟩

end Cells

/-! ## What is known -/

section Known

variable (options : Options) (row : Row) (column : Identifier)

/-- What is known of the cell of a column being equal to a scalar: nothing, if either is null. -/
def equalsTruth (v : Scalar) : Truth :=
  if Row.isNullAt row column = true ∨ v = .null then .unknown
  else .ofBool (meetsPredicate options row ⟨column, .equals v⟩)

/-- What is known of the cell of a column being in a list. A cell that equals an item is in the
list, whatever its nulls stand for, and where no item equals the cell a null still might. -/
def inTruth (items : List Scalar) : Truth :=
  if items = [] then .no
  else if Row.isNullAt row column = true then .unknown
  else if ∃ v ∈ items, v ≠ .null ∧ meetsPredicate options row ⟨column, .equals v⟩ = true then .yes
  else if .null ∈ items then .unknown
  else .no

variable {options row column}

/-- A cell that equals a scalar other than null is there. -/
theorem isNullAt_of_meets_equals {v : Scalar} (hv : v ≠ .null)
    (hmeets : meetsPredicate options row ⟨column, .equals v⟩ = true) :
    Row.isNullAt row column = false := by
  rw [isNullAt_eq]
  rw [meetsPredicate, meets] at hmeets
  cases hcell : cell? row column with
  | some cell => rfl
  | none =>
    rw [hcell] at hmeets
    cases v with
    | null => exact absurd rfl hv
    | _ => cases hmeets

theorem equalsTruth_eq_yes_iff (v : Scalar) :
    equalsTruth options row column v = .yes ↔
      v ≠ .null ∧ meetsPredicate options row ⟨column, .equals v⟩ = true := by
  rw [equalsTruth]
  split
  next hnull =>
    refine ⟨nofun, fun ⟨hv, hmeets⟩ => ?_⟩
    simp [hv, isNullAt_of_meets_equals hv hmeets] at hnull
  next hnull => simp [not_or.mp hnull]

theorem equalsTruth_eq_no_iff (v : Scalar) :
    equalsTruth options row column v = .no ↔
      Row.isNullAt row column = false ∧ v ≠ .null ∧
        meetsPredicate options row ⟨column, .equals v⟩ = false := by
  rw [equalsTruth]
  split
  next hnull =>
    refine ⟨nofun, fun ⟨hcell, hv, _⟩ => ?_⟩
    simp [hv, hcell] at hnull
  next hnull => simp [not_or.mp hnull]

theorem inTruth_eq_yes_iff (items : List Scalar) :
    inTruth options row column items = .yes ↔
      ∃ v ∈ items, v ≠ .null ∧ meetsPredicate options row ⟨column, .equals v⟩ = true := by
  unfold inTruth
  split_ifs with hnil hnull hfound
  · simp [hnil]
  · refine ⟨nofun, fun ⟨v, _, hv, hmeets⟩ => ?_⟩
    simp [isNullAt_of_meets_equals hv hmeets] at hnull
  · exact ⟨fun _ => hfound, fun _ => rfl⟩
  · exact ⟨nofun, fun h => absurd h hfound⟩
  · exact ⟨nofun, fun h => absurd h hfound⟩

theorem inTruth_eq_no_iff (items : List Scalar) :
    inTruth options row column items = .no ↔
      ∀ v ∈ items, Row.isNullAt row column = false ∧ v ≠ .null ∧
        meetsPredicate options row ⟨column, .equals v⟩ = false := by
  unfold inTruth
  split_ifs with hnil hnull hfound hmem
  · simp [hnil]
  · refine ⟨nofun, fun hall => ?_⟩
    obtain ⟨v, hv⟩ := List.exists_mem_of_ne_nil items hnil
    simp [(hall v hv).1] at hnull
  · refine ⟨nofun, fun hall => ?_⟩
    obtain ⟨v, hv, -, hmeets⟩ := hfound
    simp [(hall v hv).2.2] at hmeets
  · exact ⟨nofun, fun hall => absurd rfl (hall .null hmem).2.1⟩
  · refine ⟨fun _ v hv => ?_, fun _ => rfl⟩
    have hne : v ≠ .null := fun heq => hmem (heq ▸ hv)
    exact ⟨Bool.eq_false_iff.mpr hnull, hne,
      Bool.eq_false_iff.mpr fun hmeets => hfound ⟨v, hv, hne, hmeets⟩⟩

/-- Nothing is known of a list without nulls only if the cell is null. -/
theorem inTruth_eq_unknown_iff {items : List Scalar} (hne : items ≠ []) (hnull : .null ∉ items) :
    inTruth options row column items = .unknown ↔ Row.isNullAt row column = true := by
  rw [inTruth, if_neg hne, if_neg hnull]
  split_ifs with hcell
  · simp [hcell]
  · simp [hcell]
  · simp [hcell]

/-- Membership is a choice among equalities. -/
theorem inTruth_eq_anyOf (items : List Scalar) :
    inTruth options row column items = Truth.anyOf (equalsTruth options row column) items := by
  apply Truth.eq_of_iff
  · simp only [inTruth_eq_yes_iff, Truth.anyOf_eq_yes_iff, equalsTruth_eq_yes_iff]
  · simp only [inTruth_eq_no_iff, Truth.anyOf_eq_no_iff, equalsTruth_eq_no_iff]

theorem meets_isIn_iff (items : List Scalar) :
    meetsPredicate options row ⟨column, .isIn items⟩ = true ↔
      inTruth options row column items = .yes := by
  rw [inTruth_eq_yes_iff]
  exact isMember_eq_true_iff (cell? row column) items

theorem meets_notIn_iff (items : List Scalar) :
    meetsPredicate ⟨true⟩ row ⟨column, .notIn items⟩ = true ↔
      inTruth options row column items = .no := by
  have hmeets : meetsPredicate ⟨true⟩ row ⟨column, .notIn items⟩ =
      notMember (cell? row column) items := Bool.false_or _
  rw [inTruth_eq_no_iff, hmeets, notMember_eq_true_iff]
  simp only [isNullAt_eq, Scalar.isNull_eq_false_iff, Option.isNone_eq_false_iff]
  rfl

end Known

/-- A preview keeps a row for a list exactly if its cell is known to be in the list, and for a
negated list, where it looks at all operators, exactly if the cell is known not to be in it; what
is known is what is known of the choice among the equalities with the items. So no row is kept for
both, and for a list that has items, and no null among them, each row is kept for one of the two or
has no cell to compare. -/
theorem rows_in_list_are_known (options : Options) (row : Row) (column : Identifier)
    (items : List Scalar) :
    inTruth options row column items = Truth.anyOf (equalsTruth options row column) items ∧
    (meetsPredicate options row ⟨column, .isIn items⟩ = true ↔
      inTruth options row column items = .yes) ∧
    (meetsPredicate ⟨true⟩ row ⟨column, .notIn items⟩ = true ↔
      (inTruth options row column items).not = .yes) ∧
    ¬ (meetsPredicate options row ⟨column, .isIn items⟩ = true ∧
      meetsPredicate ⟨true⟩ row ⟨column, .notIn items⟩ = true) ∧
    (items ≠ [] → .null ∉ items →
      (meetsPredicate options row ⟨column, .isIn items⟩).toNat +
        (meetsPredicate ⟨true⟩ row ⟨column, .notIn items⟩).toNat +
        (Row.isNullAt row column).toNat = 1) := by
  have hin : meetsPredicate options row ⟨column, .isIn items⟩ = true ↔
      inTruth options row column items = .yes := meets_isIn_iff items
  have hnotIn : meetsPredicate ⟨true⟩ row ⟨column, .notIn items⟩ = true ↔
      inTruth options row column items = .no := meets_notIn_iff items
  refine ⟨inTruth_eq_anyOf items, hin, ?_, ?_, fun hne hnull => ?_⟩
  · rw [Truth.not_eq_yes_iff, hnotIn]
  · rintro ⟨hmember, hother⟩
    rw [hin] at hmember
    rw [hnotIn, hmember] at hother
    cases hother
  · exact Truth.toNat_add_eq_one hin hnotIn (inTruth_eq_unknown_iff hne hnull).symm

/-- A list as a cell is compared as its text. -/
theorem listed_text_is_in_list :
    [Scalar.string "[1,\"A\"]", .string "b"] ≠ [] ∧
      .null ∉ [Scalar.string "[1,\"A\"]", .string "b"] ∧
      (meetsPredicate ⟨false⟩ [("tags", .array [.number (.ofWord 1), .string "a"])]
          ⟨⟨"tags", by decide⟩, .isIn [.string "[1,\"A\"]", .string "b"]⟩).toNat +
        (meetsPredicate ⟨true⟩ [("tags", .array [.number (.ofWord 1), .string "a"])]
          ⟨⟨"tags", by decide⟩, .notIn [.string "[1,\"A\"]", .string "b"]⟩).toNat +
        (Row.isNullAt [("tags", .array [.number (.ofWord 1), .string "a"])]
          ⟨"tags", by decide⟩).toNat = 1 := by
  have hne : [Scalar.string "[1,\"A\"]", .string "b"] ≠ [] := nofun
  have hnull : .null ∉ [Scalar.string "[1,\"A\"]", .string "b"] := by decide
  exact ⟨hne, hnull, (rows_in_list_are_known ⟨false⟩ _ _ _).2.2.2.2 hne hnull⟩

end Preview

end TableFilter
