import TableFilter.Filter.Set
import TableFilter.Json.Reader
import TableFilter.Sql.Escape

/-!
# Conditions

A filter set as the condition of an SQL statement: one clause for each demand, joined by `AND`. A
demand that is incomplete has no clause.
-/

namespace TableFilter

open TableFilter.Filter (Spec)

namespace Sql

def Options.shape : Json.Shape Options where
  name := "struct SqlOptions"
  start := ⟨false⟩
  fields := [
    .of "escape_backslashes" false .bool fun b options => { options with escapeBackslashes := b }]
  arrayForm := .shortened
  keep? := none

def Options.toValue (options : Options) : Json.Value :=
  .object [("escape_backslashes", .bool options.escapeBackslashes)]

/-- A scalar as an SQL text has it: texts in quotes, numbers and words bare. -/
def literal (options : Options) : Scalar → String
  | .null => "NULL"
  | .bool true => "TRUE"
  | .bool false => "FALSE"
  | .number n => n.text
  | .string s => quoteLiteral options.escapeBackslashes s

def literals (options : Options) (items : List Scalar) : String :=
  Text.joined ", " (items.map (literal options))

/-- The clause of a demand on a column. The pattern of a regular expression is put between its
quotes as it is. -/
def clause? (options : Options) (column : Identifier) (spec : Spec) : Option String :=
  let name := quoteName column.name
  match spec with
  | .eq .null => some (name ++ " IS NULL")
  | .eq v => some (name ++ " = " ++ literal options v)
  | .isIn [] => some "1=0"
  | .isIn items => some (name ++ " IN (" ++ literals options items ++ ")")
  | .contains v =>
    some (name ++ " LIKE '%" ++ escapeLiteral options.escapeBackslashes (escapeLike v.text) ++ "%'")
  | .regex pattern => some (name ++ " REGEXP '" ++ pattern ++ "'")
  | .notEmpty => some (name ++ " IS NOT NULL AND " ++ name ++ " != ''")
  | .empty => some ("(" ++ name ++ " IS NULL OR " ++ name ++ " = '')")
  | .notIn [] => some "1=1"
  | .notIn items => some (name ++ " NOT IN (" ++ literals options items ++ ")")
  | .gt v => some (name ++ " > " ++ literal options v)
  | .lt v => some (name ++ " < " ++ literal options v)
  | .range (some low) (some high) =>
    some (name ++ " BETWEEN " ++ literal options low ++ " AND " ++ literal options high)
  | .range _ _ => none

def clauses (options : Options) (set : FilterSet) : List String :=
  set.entries.filterMap fun (column, spec) => clause? options column spec

/-- The condition of a set, if it has any clause. -/
def condition? (options : Options) (set : FilterSet) : Option String :=
  match clauses options set with
  | [] => none
  | cs => some (Text.joined " AND " cs)

end Sql

end TableFilter
