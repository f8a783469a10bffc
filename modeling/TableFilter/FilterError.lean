import TableFilter.Identifier
import TableFilter.Json.ReadError
import TableFilter.Text.Search

/-!
# Why a filter is refused

Filters are refused only where they come in. Everything behind that works on what has been
admitted and cannot fail.
-/

namespace TableFilter

/-- What is wrong with the value of a condition. -/
inductive ValueFault where
  | noScalar
  | isNull
  | noScalarOrArray
  deriving DecidableEq, Repr

/-- What is wrong with the transport form of a condition. -/
inductive SpecFault where
  | noScalar (branch : String)
  | notTrue (branch : String)
  | noPattern
  | severalBranches (branches : List String)
  | noBranch
  | unknownBranch (branch : String)
  deriving DecidableEq, Repr

/-- The cause for which a filter is refused. -/
inductive FilterError where
  | badIdentifier (name : String)
  | badValue (column operator : String) (fault : ValueFault)
  | badSpec (fault : SpecFault)
  | forbiddenColumn (name : String)
  | payloadTooLarge (max : UInt64)
  | tooManyPredicates (max : UInt64)
  | unreadable (e : Json.ReadError)
  deriving DecidableEq, Repr

def ValueFault.text : ValueFault → String
  | .noScalar => "expected a scalar value"
  | .isNull => "expected a non-null value"
  | .noScalarOrArray => "expected a scalar or an array"

def SpecFault.text : SpecFault → String
  | .noScalar branch => "'" ++ branch ++ "' expects a scalar"
  | .notTrue branch => "'" ++ branch ++ "' must be true"
  | .noPattern => "'regex' expects a string"
  | .severalBranches branches =>
    "more than one operator branch: " ++ Text.joined ", " branches
  | .noBranch => "empty filter object"
  | .unknownBranch branch => "unknown operator branch '" ++ branch ++ "'"

namespace FilterError

def code : FilterError → String
  | .badIdentifier _ => "INVALID_IDENTIFIER"
  | .badValue _ _ _ => "INVALID_FILTER_VALUE"
  | .badSpec _ => "INVALID_FILTER_SPEC"
  | .forbiddenColumn _ => "INVALID_FILTER_COLUMN"
  | .payloadTooLarge _ => "FILTER_JSON_TOO_LARGE"
  | .tooManyPredicates _ => "TOO_MANY_FILTERS"
  | .unreadable _ => "INVALID_FILTER_JSON"

/-- The words that tell a reader the cause, in parts that a colon joins. What is wrong with a text
that is no JSON is not told. -/
def parts : FilterError → List String
  | .badIdentifier name => ["Invalid identifier: " ++ Text.quoted name]
  | .badValue column operator fault =>
    ["Invalid value for '" ++ operator ++ "' on column " ++ column ++ ": " ++ fault.text]
  | .badSpec fault => ["Invalid filter spec: " ++ fault.text]
  | .forbiddenColumn name => ["Cannot filter by column: " ++ name]
  | .payloadTooLarge max =>
    ["Filter JSON exceeds maximum size of " ++ toString max.toNat ++ " bytes"]
  | .tooManyPredicates max => ["Maximum " ++ toString max.toNat ++ " filters allowed"]
  | .unreadable e => "Invalid filter JSON" :: e.message?.toList

def message (e : FilterError) : String :=
  Text.joined ": " e.parts

end FilterError

def Identifier.ofString (s : String) : Except FilterError Identifier :=
  match Identifier.ofString? s with
  | some i => .ok i
  | none => .error (.badIdentifier s)

end TableFilter
