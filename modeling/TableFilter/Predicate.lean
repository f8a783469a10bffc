import TableFilter.Json.Reader
import TableFilter.Operator
import TableFilter.Warning

/-!
# Predicates

One condition on one column, and its form in a text: an object or array of a column, an operator
and a value.
-/

namespace TableFilter

structure Predicate where
  column : Identifier
  operator : Operator
  deriving DecidableEq, Repr

/-- The parts of a predicate as a text gives them. -/
structure PredicateForm where
  column : String
  operator : String
  value : Json.Value

namespace PredicateForm

open Json (Field)

/-- Without an operator's value the value is null. The two texts a form starts with are never kept,
for both fields must be there. -/
def shape : Json.Shape PredicateForm where
  name := "struct RawPredicate"
  start := ⟨"", "", .null⟩
  fields := [
    Field.of "column" true .string fun s form => { form with column := s },
    Field.of "operator" true .string fun s form => { form with operator := s },
    Field.of "value" false .value fun v form => { form with value := v }]
  arrayForm := .shortened
  keep? := none

def reader : Json.Reader PredicateForm :=
  shape.reader

end PredicateForm

namespace Predicate

/-- The predicate of a form. Its operator is looked at before its column. -/
def ofForm (form : PredicateForm) : Except FilterError Predicate := do
  let operator ← Operator.ofParts form.column form.operator form.value
  let column ← Identifier.ofString form.column
  return ⟨column, operator⟩

/-- What is worth a warning when a predicate is compiled. -/
def warnings (p : Predicate) : List Warning :=
  match p.operator with
  | .unknown name _ => [.unknownOperator p.column.name name]
  | _ => []

end Predicate

end TableFilter
