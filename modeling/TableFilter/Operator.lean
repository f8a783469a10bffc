import TableFilter.FilterError
import TableFilter.Scalar

/-!
# Operators

What a condition says about its column, with the values it needs. A name that is not known stands
for equality.
-/

namespace TableFilter

open Json (Value)

/-- The value that comes with a name that is not known. -/
inductive Operand where
  | scalar (v : Scalar)
  | list (items : List Scalar)
  deriving DecidableEq, Repr

/-- The two ends of a range, either of which may be missing. -/
structure Bounds where
  min : Option Scalar
  max : Option Scalar
  deriving DecidableEq, Repr

/-- What a condition says about its column. -/
inductive Operator where
  | equals (v : Scalar)
  | contains (v : Scalar)
  | startsWith (v : Scalar)
  | endsWith (v : Scalar)
  | notEmpty
  | empty
  | isIn (items : List Scalar)
  | notIn (items : List Scalar)
  | greaterThan (v : Scalar)
  | lessThan (v : Scalar)
  | between (bounds : Bounds)
  | unknown (name : String) (operand : Operand)
  deriving DecidableEq, Repr

namespace Operator

/-- The name of an operator in a predicate. -/
def name : Operator → String
  | .equals _ => "equals"
  | .contains _ => "contains"
  | .startsWith _ => "starts_with"
  | .endsWith _ => "ends_with"
  | .notEmpty => "not_empty"
  | .empty => "empty"
  | .isIn _ => "in"
  | .notIn _ => "not_in"
  | .greaterThan _ => "greater_than"
  | .lessThan _ => "less_than"
  | .between _ => "between"
  | .unknown name _ => name

def scalarOf (v : Value) : Except ValueFault Scalar :=
  match Scalar.ofValue? v with
  | some s => .ok s
  | none => .error .noScalar

/-- A value that must be a scalar other than null. -/
def textOf (v : Value) : Except ValueFault Scalar := do
  let s ← scalarOf v
  if s.isNull then .error .isNull else .ok s

def scalarsOf : List Value → Except ValueFault (List Scalar)
  | [] => .ok []
  | v :: rest => do
    let s ← scalarOf v
    let ss ← scalarsOf rest
    return s :: ss

/-- A list of scalars; a scalar by itself is a list of one. -/
def listOf : Value → Except ValueFault (List Scalar)
  | .array items => scalarsOf items
  | v => (scalarOf v).map ([·])

/-- An end of a range; null and what is no scalar count as missing. -/
def boundOf (members : List (String × Value)) (key : String) : Option Scalar :=
  ((Entries.get? key members).bind Scalar.ofValue?).filter (!·.isNull)

/-- The ends of a range; what is no object has none. -/
def boundsOf : Value → Bounds
  | .object members => ⟨boundOf members "min", boundOf members "max"⟩
  | _ => ⟨none, none⟩

/-- The value of an operator that is not known. -/
def operandOf : Value → Except ValueFault Operand
  | .object _ => .error .noScalarOrArray
  | .array items => (scalarsOf items).map .list
  | v => (scalarOf v).map .scalar

/-- The operator with a given name and value. -/
def ofNameAndValue (name : String) (value : Value) : Except ValueFault Operator :=
  if name = "equals" then (scalarOf value).map .equals
  else if name = "contains" then (textOf value).map .contains
  else if name = "starts_with" then (textOf value).map .startsWith
  else if name = "ends_with" then (textOf value).map .endsWith
  else if name = "not_empty" then .ok .notEmpty
  else if name = "empty" then .ok .empty
  else if name = "in" then (listOf value).map .isIn
  else if name = "not_in" then (listOf value).map .notIn
  else if name = "greater_than" then (scalarOf value).map .greaterThan
  else if name = "less_than" then (scalarOf value).map .lessThan
  else if name = "between" then .ok (.between (boundsOf value))
  else (operandOf value).map (.unknown name)

/-- The operator of a condition on a column, with given name and value. -/
def ofParts (column name : String) (value : Value) : Except FilterError Operator :=
  match ofNameAndValue name value with
  | .ok o => .ok o
  | .error fault => .error (.badValue column name fault)

end Operator

end TableFilter
