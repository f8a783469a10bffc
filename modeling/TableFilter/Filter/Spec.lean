import TableFilter.FilterError
import TableFilter.Scalar

/-!
# Filter specs

The effect of a predicate on its column, in the form that travels to a backend: a bare scalar or
array for equality and membership, and otherwise an object with one branch, named for the operator.
-/

namespace TableFilter.Filter

open Json (Value)

/-- What a filter demands of one column. -/
inductive Spec where
  | eq (v : Scalar)
  | isIn (items : List Scalar)
  | contains (v : Scalar)
  | regex (pattern : String)
  | notEmpty
  | empty
  | notIn (items : List Scalar)
  | gt (v : Scalar)
  | lt (v : Scalar)
  | range (gte lte : Option Scalar)
  deriving DecidableEq, Repr

namespace Spec

def kind : Spec → String
  | .eq _ => "Eq"
  | .isIn _ => "In"
  | .contains _ => "Contains"
  | .regex _ => "Regex"
  | .notEmpty => "NotEmpty"
  | .empty => "Empty"
  | .notIn _ => "NotIn"
  | .gt _ => "Gt"
  | .lt _ => "Lt"
  | .range _ _ => "Range"

/-- Equality of demands, their values being equal as scalars are. -/
def equals : Spec → Spec → Bool
  | .eq a, .eq b | .contains a, .contains b | .gt a, .gt b | .lt a, .lt b => a.equals b
  | .isIn as, .isIn bs | .notIn as, .notIn bs => Scalar.listEquals as bs
  | .regex p, .regex q => p == q
  | .notEmpty, .notEmpty | .empty, .empty => true
  | .range gte lte, .range gte' lte' =>
    Scalar.optionEquals gte gte' && Scalar.optionEquals lte lte'
  | _, _ => false

def listValue (items : List Scalar) : Value :=
  .array (items.map Scalar.toValue)

/-- A member for an end of a range that is there. -/
def boundMember (name : String) : Option Scalar → List (String × Value)
  | none => []
  | some v => [(name, v.toValue)]

def toValue : Spec → Value
  | .eq v => v.toValue
  | .isIn items => listValue items
  | .contains v => .object [("contains", v.toValue)]
  | .regex pattern => .object [("regex", .string pattern)]
  | .notEmpty => .object [("not_empty", .bool true)]
  | .empty => .object [("empty", .bool true)]
  | .notIn items => .object [("not_in", listValue items)]
  | .gt v => .object [("gt", v.toValue)]
  | .lt v => .object [("lt", v.toValue)]
  | .range gte lte => .object (boundMember "gte" gte ++ boundMember "lte" lte)

def branchScalar (branch : String) (v : Value) : Except SpecFault Scalar :=
  match Scalar.ofValue? v with
  | some s => .ok s
  | none => .error (.noScalar branch)

/-- The values of a branch that must all be scalars. -/
def branchScalars (branch : String) : List Value → Except SpecFault (List Scalar)
  | [] => .ok []
  | v :: rest => do
    let s ← branchScalar branch v
    let ss ← branchScalars branch rest
    return s :: ss

/-- The list of a branch; a scalar by itself is a list of one. -/
def branchList (branch : String) : Value → Except SpecFault (List Scalar)
  | .array items => branchScalars branch items
  | v => (branchScalar branch v).map ([·])

/-- The value of a branch that is there or not, and must be true if it is. -/
def branchFlag (branch : String) : Value → Except SpecFault Unit
  | .bool true => .ok ()
  | _ => .error (.notTrue branch)

def branchPattern : Value → Except SpecFault String
  | .string pattern => .ok pattern
  | _ => .error .noPattern

/-- An end of a range, which may be missing or null. -/
def branchBound (members : List (String × Value)) (branch : String) :
    Except SpecFault (Option Scalar) :=
  match Entries.get? branch members with
  | none | some .null => .ok none
  | some v => (branchScalar branch v).map some

/-- The demand of the one branch of an object. -/
def ofBranch (branch : String) (v : Value) : Except SpecFault Spec :=
  if branch = "contains" then (branchScalar branch v).map .contains
  else if branch = "regex" then (branchPattern v).map .regex
  else if branch = "not_empty" then (branchFlag branch v).map fun _ => .notEmpty
  else if branch = "empty" then (branchFlag branch v).map fun _ => .empty
  else if branch = "not_in" then (branchList branch v).map .notIn
  else if branch = "gt" then (branchScalar branch v).map .gt
  else if branch = "lt" then (branchScalar branch v).map .lt
  else .error (.unknownBranch branch)

/-- Whether an object is a range: it has no branch but the two ends. -/
def isRange (members : List (String × Value)) : Bool :=
  members.all fun (branch, _) => branch == "gte" || branch == "lte"

/-- The demand of a transport form. An object without any branch is a range without ends. -/
def ofValue? : Value → Except SpecFault Spec
  | .array items => (branchScalars "in" items).map .isIn
  | .object members =>
    if isRange members then do
      let gte ← branchBound members "gte"
      let lte ← branchBound members "lte"
      return .range gte lte
    else match members with
      | [] => .error .noBranch
      | [(branch, v)] => ofBranch branch v
      | _ => .error (.severalBranches (Entries.keys members))
  | v => (branchScalar "equals" v).map .eq

def ofValue (v : Value) : Except FilterError Spec :=
  match ofValue? v with
  | .ok spec => .ok spec
  | .error fault => .error (.badSpec fault)

end Spec

end TableFilter.Filter
