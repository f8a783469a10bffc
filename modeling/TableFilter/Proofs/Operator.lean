import TableFilter.Operator
import TableFilter.Proofs.Outcome

/-!
# Names of operators

A name that is not known takes the values that equality and membership take: an array as a list,
and any other value by itself.
-/

namespace TableFilter

open Json (Value)

/-- The operator that the value of a name that is not known stands for. -/
def Operand.toOperator : Operand → Operator
  | .scalar v => .equals v
  | .list items => .isIn items

namespace Operator

/-- The names that have a meaning of their own. -/
def knownNames : List String :=
  ["equals", "contains", "starts_with", "ends_with", "not_empty", "empty", "in", "not_in",
    "greater_than", "less_than", "between"]

/-- The known name that takes a value as a name that is not known does. -/
def standIn : Value → String
  | .array _ => "in"
  | _ => "equals"

variable {name : String} {value : Value} {o : Operator}

theorem ofParts_eq_ok_iff (column : String) :
    ofParts column name value = .ok o ↔ ofNameAndValue name value = .ok o := by
  rw [ofParts]
  cases ofNameAndValue name value with
  | error fault => exact ⟨nofun, nofun⟩
  | ok o' => simp

theorem ofNameAndValue_of_not_mem_knownNames (hname : name ∉ knownNames) :
    ofNameAndValue name value = (operandOf value).map (.unknown name) := by
  simp only [knownNames, List.mem_cons, List.not_mem_nil, or_false, not_or] at hname
  simp only [ofNameAndValue, hname, if_false]

theorem ofNameAndValue_equals : ofNameAndValue "equals" value = (scalarOf value).map .equals := by
  simp only [ofNameAndValue, if_true]

theorem ofNameAndValue_in : ofNameAndValue "in" value = (listOf value).map .isIn := by
  simp [ofNameAndValue]

/-- An object is no scalar for equality and neither a scalar nor an array for a name that is not
known. All other values are taken, or refused, alike. -/
theorem ofNameAndValue_standIn_eq_ok_iff :
    ofNameAndValue (standIn value) value = .ok o ↔
      ∃ operand, operandOf value = .ok operand ∧ operand.toOperator = o := by
  cases value with
  | array items =>
    simp only [standIn, ofNameAndValue_in, listOf, operandOf]
    cases scalarsOf items <;> simp [Except.map, Operand.toOperator]
  | _ =>
    simp [standIn, ofNameAndValue_equals, operandOf, scalarOf, Scalar.ofValue?, Except.map,
      Operand.toOperator]

end Operator

end TableFilter
