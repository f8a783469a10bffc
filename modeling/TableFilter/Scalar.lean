import TableFilter.Json.Reader

/-!
# Scalars

The single values that a condition compares a column with.
-/

namespace TableFilter

open Decimal (Binary64)

/-- A single value. -/
inductive Scalar where
  | null
  | bool (b : Bool)
  | number (n : Json.Number)
  | string (s : String)
  deriving DecidableEq, Repr

namespace Scalar

/-- The scalar that a JSON value is; arrays and objects are none. -/
def ofValue? : Json.Value → Option Scalar
  | .null => some .null
  | .bool b => some (.bool b)
  | .number n => some (.number n)
  | .string s => some (.string s)
  | .array _ | .object _ => none

def reader : Json.Reader Scalar :=
  Json.Reader.value.andThen fun v =>
    match ofValue? v with
    | some s => .ok s
    | none => .error (.refused "data did not match any variant of untagged enum Scalar")

/-- The double that 64 bits stand for, or null if it is not a finite one. -/
def ofBits (bits : UInt64) : Scalar :=
  match Binary64.ofBits? bits with
  | some x => .number (.double x)
  | none => .null

def toValue : Scalar → Json.Value
  | .null => .null
  | .bool b => .bool b
  | .number n => .number n
  | .string s => .string s

def isNull : Scalar → Bool
  | .null => true
  | _ => false

/-- The text that a pattern is made of. -/
def text : Scalar → String
  | .null => "null"
  | .bool b => String.ofList (Json.boolChars b)
  | .number n => n.text
  | .string s => s

/-- The number a scalar stands for: truth values are one and zero, and a text stands for the number
written in it. -/
def toDouble? : Scalar → Option Binary64
  | .null => none
  | .bool b => some (if b then .one else .zero false)
  | .number n => n.toDouble?
  | .string s => Decimal.ofText? s

/-- Equality of scalars, numbers being equal as numbers of their kind are. -/
def equals : Scalar → Scalar → Bool
  | .null, .null => true
  | .bool a, .bool b => a == b
  | .number m, .number n => m.equals n
  | .string s, .string t => s == t
  | _, _ => false

def listEquals : List Scalar → List Scalar → Bool
  | [], [] => true
  | a :: as, b :: bs => a.equals b && listEquals as bs
  | _, _ => false

def optionEquals : Option Scalar → Option Scalar → Bool
  | none, none => true
  | some a, some b => a.equals b
  | _, _ => false

theorem ofValue?_toValue (v : Scalar) : ofValue? v.toValue = some v := by
  cases v <;> rfl

end Scalar

end TableFilter
