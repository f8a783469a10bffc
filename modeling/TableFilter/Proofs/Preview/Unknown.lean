import TableFilter.Filter.Compile
import TableFilter.Preview
import TableFilter.Proofs.Operator
import TableFilter.Sql.Condition

/-!
# Operators that are not known

A name that is not known means membership with an array and equality with any other value: to the
reader of predicates, to a statement and to a preview. Main statement:
`unknown_operators_are_equality`.
-/

namespace TableFilter

open Json (Value)

namespace Operator

theorem toSpec_unknown (name : String) (operand : Operand) :
    (unknown name operand).toSpec = operand.toOperator.toSpec := by
  cases operand <;> rfl

end Operator

namespace Preview

theorem meets_unknown (options : Options) (cell : Option Value) (name : String)
    (operand : Operand) :
    meets options cell (.unknown name operand) =
      (!options.fullOperatorSet || meets options cell operand.toOperator) := by
  cases operand <;> rfl

/-- A name that is not known is taken with the values with which the name that stands in for it is.
The two operators then demand the same of any column, have the same clause, and are met by the same
rows; a preview that does not look at all operators lets every row pass. -/
theorem unknown_operators_are_equality {name : String} (hname : name ∉ Operator.knownNames)
    (text : String) (value : Value) :
    ((∃ o, Operator.ofParts text name value = .ok o) ↔
      ∃ o, Operator.ofParts text (Operator.standIn value) value = .ok o) ∧
    ∀ o o', Operator.ofParts text name value = .ok o →
      Operator.ofParts text (Operator.standIn value) value = .ok o' →
      ∀ column : Identifier,
        (⟨column, o⟩ : Predicate).toEntry = (⟨column, o'⟩ : Predicate).toEntry ∧
        (∀ options, Sql.clause? options column o.toSpec = Sql.clause? options column o'.toSpec) ∧
        ∀ row, meetsPredicate ⟨true⟩ row ⟨column, o⟩ = meetsPredicate ⟨true⟩ row ⟨column, o'⟩ ∧
          meetsPredicate ⟨false⟩ row ⟨column, o⟩ = true := by
  simp only [Operator.ofParts_eq_ok_iff, Operator.ofNameAndValue_of_not_mem_knownNames hname,
    Operator.ofNameAndValue_standIn_eq_ok_iff, map_eq_ok_iff]
  constructor
  · constructor
    · rintro ⟨_, operand, hread, rfl⟩
      exact ⟨_, operand, hread, rfl⟩
    · rintro ⟨_, operand, hread, rfl⟩
      exact ⟨_, operand, hread, rfl⟩
  · rintro _ _ ⟨operand, hread, rfl⟩ ⟨operand', hread', rfl⟩ column
    obtain rfl : operand = operand' := Except.ok.inj (hread.symm.trans hread')
    have hspec := Operator.toSpec_unknown name operand
    refine ⟨Prod.ext rfl hspec, fun options => congrArg _ hspec, fun row => ⟨?_, ?_⟩⟩
    · rw [meetsPredicate, meetsPredicate, meets_unknown, Bool.not_true, Bool.false_or]
    · rw [meetsPredicate, meets_unknown, Bool.not_false, Bool.true_or]

/-- The name `near` with 1 and null is membership in these two. -/
theorem near_is_membership :
    let value : Value := .array [.number (.ofWord 1), .null]
    let near : Operator := .unknown "near" (.list [.number (.ofWord 1), .null])
    let among : Operator := .isIn [.number (.ofWord 1), .null]
    "near" ∉ Operator.knownNames ∧ Operator.ofParts "price" "near" value = .ok near ∧
      Operator.ofParts "price" "in" value = .ok among ∧
      ∀ column : Identifier,
        (⟨column, near⟩ : Predicate).toEntry = (⟨column, among⟩ : Predicate).toEntry ∧
        (∀ options,
          Sql.clause? options column near.toSpec = Sql.clause? options column among.toSpec) ∧
        ∀ row,
          meetsPredicate ⟨true⟩ row ⟨column, near⟩ = meetsPredicate ⟨true⟩ row ⟨column, among⟩ ∧
          meetsPredicate ⟨false⟩ row ⟨column, near⟩ = true := by
  intro value near among
  have hname : "near" ∉ Operator.knownNames := by decide
  have hnear : Operator.ofParts "price" "near" value = .ok near := by rfl
  have hamong : Operator.ofParts "price" "in" value = .ok among := by rfl
  exact ⟨hname, hnear, hamong,
    (unknown_operators_are_equality hname "price" value).2 near among hnear hamong⟩

end Preview

end TableFilter
