import TableFilter.Predicate
import TableFilter.Text.Case
import TableFilter.Text.Search

/-!
# Previews

Which rows meet a list of predicates, without a database. A cell that is missing counts as null.
-/

namespace TableFilter

open Decimal (Binary64)
open Json (Value)

/-- A row: the cells of its columns. -/
abbrev Row : Type :=
  List (String × Value)

namespace Preview

/-- Whether membership in a negated list, ranges and unknown operators are looked at, or let every
row pass. -/
structure Options where
  fullOperatorSet : Bool
  deriving DecidableEq, Repr

instance : Inhabited Options :=
  ⟨⟨false⟩⟩

def Options.shape : Json.Shape Options where
  name := "struct EvalOptions"
  start := ⟨false⟩
  fields := [
    .of "full_operator_set" false .bool fun b options => { options with fullOperatorSet := b }]
  arrayForm := .shortened
  keep? := none

def Options.toValue (options : Options) : Value :=
  .object [("full_operator_set", .bool options.fullOperatorSet)]

/-- The cell of a column, if it is there and not null. -/
def cell? (row : Row) (column : Identifier) : Option Value :=
  match Entries.get? column.name row with
  | some .null => none
  | cell => cell

def cellText : Value → String
  | .string s => s
  | v => v.text

/-- The number a cell stands for. -/
def cellDouble? (cell : Value) : Option Binary64 :=
  (Scalar.ofValue? cell).bind Scalar.toDouble?

def isNumber : Value → Bool
  | .number _ => true
  | _ => false

def cellKey (cell : Value) : List Char :=
  Text.lowerChars (cellText cell).toList

def scalarKey (v : Scalar) : List Char :=
  Text.lowerChars v.text.toList

/-- Whether a cell that is there equals a scalar other than null: as numbers, if one of the two is
a number and both stand for one, and otherwise as texts in any case. -/
def sameValue (cell : Value) (v : Scalar) : Bool :=
  if isNumber cell || isNumber v.toValue then
    match cellDouble? cell, v.toDouble? with
    | some a, some b => a.equals b
    | _, _ => cellKey cell == scalarKey v
  else cellKey cell == scalarKey v

/-- Whether a cell equals a scalar. Only null equals null. -/
def equals : Option Value → Scalar → Bool
  | none, .null => true
  | none, _ => false
  | some _, .null => false
  | some cell, v => sameValue cell v

/-- Whether the texts of a cell and a scalar stand in a relation, in any case. -/
def textMatches (cell : Option Value) (v : Scalar)
    (test : List Char → List Char → Bool) : Bool :=
  cell.any fun cell => test (scalarKey v) (cellKey cell)

/-- Whether a cell is null or an empty text. -/
def isBlank : Option Value → Bool
  | none => true
  | some (.string s) => s.isEmpty
  | some _ => false

/-- Whether a cell equals one of the scalars other than null. -/
def isMember (cell : Option Value) (items : List Scalar) : Bool :=
  items.any fun v => !v.isNull && equals cell v

/-- Whether a cell is known to equal none of the scalars. With null on either side nothing is
known, unless there are no scalars at all. -/
def notMember (cell : Option Value) (items : List Scalar) : Bool :=
  items.isEmpty || (cell.isSome && !items.any Scalar.isNull && !isMember cell items)

/-- Whether the numbers of a cell and a scalar stand in a relation. -/
def compares (cell : Option Value) (v : Scalar) (test : Binary64 → Binary64 → Bool) : Bool :=
  match cell.bind cellDouble?, v.toDouble? with
  | some a, some b => test a b
  | _, _ => false

/-- Whether the number of a cell lies in a range, its ends included. A range that lacks an end
holds everything. -/
def isBetween (cell : Option Value) (bounds : Bounds) : Bool :=
  match bounds.min, bounds.max with
  | some low, some high =>
    compares cell low (fun a b => !a.lessThan b) && compares cell high (fun a b => !b.lessThan a)
  | _, _ => true

/-- Whether a cell meets what an operator says. -/
def meets (options : Options) (cell : Option Value) : Operator → Bool
  | .equals v => equals cell v
  | .contains v => textMatches cell v Text.occursIn
  | .startsWith v => textMatches cell v List.isPrefixOf
  | .endsWith v => textMatches cell v List.isSuffixOf
  | .notEmpty => !isBlank cell
  | .empty => isBlank cell
  | .isIn items => isMember cell items
  | .notIn items => !options.fullOperatorSet || notMember cell items
  | .greaterThan v => compares cell v fun a b => b.lessThan a
  | .lessThan v => compares cell v fun a b => a.lessThan b
  | .between bounds => !options.fullOperatorSet || isBetween cell bounds
  | .unknown _ (.scalar v) => !options.fullOperatorSet || equals cell v
  | .unknown _ (.list items) => !options.fullOperatorSet || isMember cell items

def meetsPredicate (options : Options) (row : Row) (p : Predicate) : Bool :=
  meets options (cell? row p.column) p.operator

def meetsAll (options : Options) (predicates : List Predicate) (row : Row) : Bool :=
  predicates.all (meetsPredicate options row)

/-- The rows that meet all predicates, in order. -/
def kept (options : Options) (predicates : List Predicate) (rows : List Row) : List Row :=
  rows.filter (meetsAll options predicates)

end Preview

end TableFilter
