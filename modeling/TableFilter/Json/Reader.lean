import TableFilter.Json.Draft
import TableFilter.Json.ReadError

/-!
# Reading values of a wanted shape

A reader goes through a draft from left to right and stops at the first fault: a part that is not
of the wanted shape, or the place where the text stops being JSON. A fault behind that place is not
seen. Containers may nest 127 deep, counted from the root; what is skipped may nest deeper.
-/

namespace TableFilter.Json

/-- How many containers may be open at once. -/
def nestingLimit : Nat := 127

/-- Reads a value of some shape; the number says how many more containers may be opened. -/
abbrev Reader (α : Type) : Type :=
  Nat → Draft → Except ReadError α

/-- The fault of something of another kind than the wanted one. A number or string that has no
value is noticed before its kind is, while a container is not looked into. -/
def Draft.mismatch (wanted : String) : Draft → ReadError
  | .broken | .number none | .string none => .malformed
  | .null => .mismatch .null wanted
  | .bool b => .mismatch (.bool b) wanted
  | .number (some n) => .mismatch (.number n) wanted
  | .string (some s) => .mismatch (.string s) wanted
  | .array _ => .mismatch .sequence wanted
  | .object _ => .mismatch .map wanted

mutual

/-- Reads any value. -/
def Draft.toValue : Reader Value
  | _, .null => .ok .null
  | _, .bool b => .ok (.bool b)
  | _, .number (some n) => .ok (.number n)
  | _, .string (some s) => .ok (.string s)
  | depth + 1, .array items => (itemValues depth items).map .array
  | depth + 1, .object members => (memberValues depth [] members).map .object
  | _, _ => .error .malformed

def Draft.itemValues : Nat → List Draft → Except ReadError (List Value)
  | _, [] => .ok []
  | depth, d :: rest => do
    let v ← d.toValue depth
    let vs ← itemValues depth rest
    return v :: vs

/-- Reads the members of an object after those in `before`. A name that comes again keeps its
place and takes the later value. -/
def Draft.memberValues : Nat → List (String × Value) → List (Option String × Draft) →
    Except ReadError (List (String × Value))
  | _, before, [] => .ok before
  | depth, before, (some name, d) :: rest => do
    let v ← d.toValue depth
    memberValues depth (Entries.put name v before) rest
  | _, _, (none, _) :: _ => .error .malformed

end

namespace Reader

variable {α β : Type}

def value : Reader Value :=
  Draft.toValue

def string : Reader String
  | _, .string (some s) => .ok s
  | _, d => .error (d.mismatch "a string")

def bool : Reader Bool
  | _, .bool b => .ok b
  | _, d => .error (d.mismatch "a boolean")

/-- Reads a word of 64 bits; `wanted` is what messages call it. -/
def word (wanted : String) : Reader UInt64
  | _, .number (some (.integer n _)) =>
    if 0 ≤ n then .ok (.ofNat n.toNat) else .error (.outOfRange n wanted)
  | _, d => .error (d.mismatch wanted)

/-- Reads a value that may be null. -/
def optional (r : Reader α) : Reader (Option α)
  | _, .null => .ok none
  | depth, d => (r depth d).map some

def list (r : Reader α) : Reader (List α)
  | depth + 1, .array items => items.mapM (r depth)
  | 0, .array _ => .error .malformed
  | _, d => .error (d.mismatch "a sequence")

def members : Reader (List (String × Value))
  | depth + 1, .object members => Draft.memberValues depth [] members
  | 0, .object _ => .error .malformed
  | _, d => .error (d.mismatch "a map")

/-- Reads a value and goes on with what it says. -/
def andThen (r : Reader α) (f : α → Except ReadError β) : Reader β :=
  fun depth d => r depth d >>= f

end Reader

/-- A field of a record: its name, whether it must be there, and how its value is read into the
record. -/
structure Field (α : Type) where
  name : String
  required : Bool
  read : Nat → Draft → α → Except ReadError α

/-- A field whose value `r` reads and `set` puts into the record. -/
def Field.of {α β : Type} (name : String) (required : Bool) (r : Reader β) (set : β → α → α) :
    Field α where
  name := name
  required := required
  read depth d record := (r depth d).map (set · record)

/-- Whether an array of its fields may stand for a record: not at all, only with all fields, or also
without those at the end that need not be there. -/
inductive ArrayForm where
  | refused
  | complete
  | shortened
  deriving DecidableEq, Repr

/-- A kind of record: what messages call it, the record without any field, the fields in order, and
what becomes of a member that is no field. Without a place in the record it is skipped. -/
structure Shape (α : Type) where
  name : String
  start : α
  fields : List (Field α)
  arrayForm : ArrayForm
  keep? : Option (String → Value → α → α)

namespace Shape

variable {α : Type}

/-- What messages call the record when an array of its fields is too short. -/
def arrayName (shape : Shape α) : String :=
  shape.name ++ " with " ++ toString shape.fields.length ++
    if shape.fields.length = 1 then " element" else " elements"

/-- Reads a member that is no field. -/
def readOther (shape : Shape α) (depth : Nat) (name : String) (d : Draft) (record : α) :
    Except ReadError α :=
  match shape.keep? with
  | some keep => (d.toValue depth).map (keep name · record)
  | none => if d.isWhole then .ok record else .error .malformed

/-- Reads the members of an object into the record. A field must not come twice, which is noticed
before its second value is looked at. -/
def readMembers (shape : Shape α) (depth : Nat) (seen : List String) (record : α) :
    List (Option String × Draft) → Except ReadError α
  | [] =>
    match shape.fields.find? fun f => f.required && !seen.contains f.name with
    | some f => .error (.missing f.name)
    | none => .ok record
  | (none, _) :: _ => .error .malformed
  | (some name, d) :: rest =>
    match shape.fields.find? (·.name == name) with
    | none => do
      let record ← shape.readOther depth name d record
      shape.readMembers depth seen record rest
    | some f =>
      if seen.contains name then .error (.repeated name)
      else do
        let record ← f.read depth d record
        shape.readMembers depth (name :: seen) record rest

/-- Reads the items of an array into the given fields of the record. Fields that need not be there
may be left out at the end. -/
def readItems (shape : Shape α) (depth length : Nat) (record : α) :
    List (Field α) → List Draft → Except ReadError α
  | [], [] => .ok record
  | [], _ :: _ => .error (.tooLong length)
  | f :: fields, [] =>
    if f.required || shape.arrayForm == .complete then .error (.tooShort length shape.arrayName)
    else shape.readItems depth length record fields []
  | f :: fields, d :: items => do
    let record ← f.read depth d record
    shape.readItems depth length record fields items

/-- Reads a record, written as an object or as the array of its fields. -/
def reader (shape : Shape α) : Reader α
  | depth + 1, .object members => shape.readMembers depth [] shape.start members
  | depth, .array items =>
    match depth, shape.arrayForm with
    -- A refused array is of the wrong kind at any depth.
    | _, .refused => .error (.mismatch .sequence shape.name)
    | 0, _ => .error .malformed
    | depth + 1, _ => shape.readItems depth items.length shape.start shape.fields items
  | 0, .object _ => .error .malformed
  | _, d => .error (d.mismatch shape.name)

end Shape

/-- Reads a text. In a text an array with too many items is a fault of the text, as is anything
but blanks behind the value. -/
def read {α : Type} (r : Reader α) (text : String) : Except ReadError α :=
  let document := Draft.Document.ofText text
  match r nestingLimit document.root with
  | .ok a => if document.trailing then .error .malformed else .ok a
  | .error (.tooLong _) => .error .malformed
  | .error e => .error e

/-- Reads a value that is there already. -/
def decode {α : Type} (r : Reader α) (v : Value) : Except ReadError α :=
  r nestingLimit (.ofValue v)

end TableFilter.Json
