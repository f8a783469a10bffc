import TableFilter.Filter.Compile

/-!
# Admission

Filters come in as texts, from outside, and are admitted only within limits: on the size of the
text, on the number of conditions and on the columns they may name.
-/

namespace TableFilter

open Json (Field)

/-- What a filter from outside may be. Without a list of columns all are allowed. -/
structure Limits where
  maxPredicates : UInt64
  maxBytes : UInt64
  allowedColumns : Option (List String)
  deriving DecidableEq, Repr

namespace Limits

/-- Fifty conditions, 64 KiB of text, any column. -/
def standard : Limits :=
  ⟨50, 65536, none⟩

instance : Inhabited Limits :=
  ⟨standard⟩

/-- The form of limits in a text; what is not given is as usual. -/
def shape : Json.Shape Limits where
  name := "struct ParseLimits"
  start := standard
  fields := [
    Field.of "max_predicates" false (.word "usize") fun n l => { l with maxPredicates := n },
    Field.of "max_json_bytes" false (.word "usize") fun n l => { l with maxBytes := n },
    Field.of "allowed_columns" false (.optional (.list .string)) fun cs l =>
      { l with allowedColumns := cs }]
  arrayForm := .shortened
  keep? := none

/-- Whether a column may be named. -/
def allows (limits : Limits) (column : Identifier) : Bool :=
  match limits.allowedColumns with
  | none => true
  | some columns => columns.contains column.name

def toValue (limits : Limits) : Json.Value :=
  .object [
    ("max_predicates", .number (.ofWord limits.maxPredicates)),
    ("max_json_bytes", .number (.ofWord limits.maxBytes)),
    ("allowed_columns", .ofOption (fun columns => .array (columns.map .string))
      limits.allowedColumns)]

def checkSize (limits : Limits) (text : String) : Except FilterError Unit :=
  if limits.maxBytes.toNat < text.utf8ByteSize then .error (.payloadTooLarge limits.maxBytes)
  else .ok ()

def checkCount (limits : Limits) (count : Nat) : Except FilterError Unit :=
  if limits.maxPredicates.toNat < count then .error (.tooManyPredicates limits.maxPredicates)
  else .ok ()

/-- Refuses a column that may not be named. -/
def checkColumn (limits : Limits) (column : Identifier) : Except FilterError Unit :=
  if limits.allows column then .ok () else .error (.forbiddenColumn column.name)

/-- Refuses the first column that may not be named. -/
def checkColumns (limits : Limits) : List Identifier → Except FilterError Unit
  | [] => .ok ()
  | column :: rest => do
    limits.checkColumn column
    limits.checkColumns rest

end Limits

/-- Reads a text that holds a filter. -/
def readPayload {α : Type} (r : Json.Reader α) (limits : Limits) (text : String) :
    Except FilterError α := do
  limits.checkSize text
  match Json.read r text with
  | .ok a => .ok a
  | .error e => .error (.unreadable e)

/-- The predicate of a form, if its column may be named. -/
def admitForm (limits : Limits) (form : PredicateForm) : Except FilterError Predicate := do
  let p ← Predicate.ofForm form
  limits.checkColumn p.column
  return p

/-- The predicates of forms, one after the other. -/
def admitForms (limits : Limits) : List PredicateForm → Except FilterError (List Predicate)
  | [] => .ok []
  | form :: rest => do
    let p ← admitForm limits form
    let ps ← admitForms limits rest
    return p :: ps

def readPredicates (limits : Limits) (text : String) : Except FilterError (List Predicate) := do
  let forms ← readPayload (.list PredicateForm.reader) limits text
  limits.checkCount forms.length
  admitForms limits forms

def readFilterSet (limits : Limits) (text : String) : Except FilterError FilterSet := do
  let members ← readPayload .members limits text
  let set ← FilterSet.ofMembers members
  limits.checkCount set.size
  limits.checkColumns set.columns
  return set

end TableFilter
