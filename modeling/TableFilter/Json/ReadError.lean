import TableFilter.Json.Place
import TableFilter.Json.Value
import TableFilter.Text.Quoted

/-!
# Why a value cannot be read

Either the text is no JSON, or it is JSON of a shape that is not wanted. Only the second has a
message.
-/

namespace TableFilter.Json

/-- What stands where something else is wanted. -/
inductive Found where
  | null
  | bool (b : Bool)
  | number (n : Number)
  | string (s : String)
  | sequence
  | map
  deriving DecidableEq, Repr

/-- The cause of a failure to read a value. -/
inductive ReadError where
  /-- The text is no JSON up to and including this value. -/
  | malformed
  /-- Something of another kind than the wanted one. -/
  | mismatch (found : Found) (wanted : String)
  /-- An integer that the wanted kind of number does not hold. -/
  | outOfRange (n : Int) (wanted : String)
  /-- An array with fewer items than the fields it stands for. -/
  | tooShort (length : Nat) (wanted : String)
  /-- An array with more items than the fields it stands for. -/
  | tooLong (length : Nat)
  | missing (field : String)
  | repeated (field : String)
  /-- A value of the wanted kind that is refused for what it says. -/
  | refused (reason : String)
  deriving DecidableEq, Repr

def Found.text : Found → String
  | .null => "null"
  | .bool b => "boolean \x60" ++ String.ofList (boolChars b) ++ "\x60"
  | .number (.integer n h) => "integer \x60" ++ (Number.integer n h).text ++ "\x60"
  | .number (.double x) => "floating point \x60" ++ x.text ++ "\x60"
  | .string s => "string " ++ Text.quoted s
  | .sequence => "sequence"
  | .map => "map"

/-- The message of a failure; a text that is no JSON has none. A reason is told without the place
that it ends with, as a message says what is wrong and not where. -/
def ReadError.message? : ReadError → Option String
  | .malformed => none
  | .mismatch found wanted => some ("invalid type: " ++ found.text ++ ", expected " ++ wanted)
  | .outOfRange n wanted =>
    some ("invalid value: integer \x60" ++ toString n ++ "\x60, expected " ++ wanted)
  | .tooShort length wanted =>
    some ("invalid length " ++ toString length ++ ", expected " ++ wanted)
  | .tooLong length =>
    some ("invalid length " ++ toString length ++ ", expected fewer elements in array")
  | .missing field => some ("missing field \x60" ++ field ++ "\x60")
  | .repeated field => some ("duplicate field \x60" ++ field ++ "\x60")
  | .refused reason => some (withoutPlace reason)

end TableFilter.Json
