import TableFilter.Filter.Set
import TableFilter.Predicate
import TableFilter.Sql.Escape

/-!
# From predicates to filter sets

Each predicate demands something of its column. Of several predicates on one column the last one
counts, and the column stays where it first came.
-/

namespace TableFilter

open TableFilter.Filter (Spec)

/-- What an operator demands. A text at the start or the end of a cell is a pattern with an anchor
there, and an operator that is not known is equality or membership. -/
def Operator.toSpec : Operator → Spec
  | .equals v => .eq v
  | .contains v => .contains v
  | .startsWith v => .regex ("^" ++ Sql.escapeRegex v.text)
  | .endsWith v => .regex (Sql.escapeRegex v.text ++ "$")
  | .notEmpty => .notEmpty
  | .empty => .empty
  | .isIn items => .isIn items
  | .notIn items => .notIn items
  | .greaterThan v => .gt v
  | .lessThan v => .lt v
  | .between bounds => .range bounds.min bounds.max
  | .unknown _ (.scalar v) => .eq v
  | .unknown _ (.list items) => .isIn items

def Predicate.toEntry (p : Predicate) : Identifier × Spec :=
  (p.column, p.operator.toSpec)

/-- The set of the demands of predicates, if there are any. -/
def FilterSet.compile? : List Predicate → Option FilterSet
  | [] => none
  | p :: ps => some (.ofList ((p :: ps).map Predicate.toEntry))

end TableFilter
