import TableFilter.Json.Token
import TableFilter.Json.Value

/-!
# Drafts

What a text says up to the place where it stops being JSON. Reading a value of some shape goes
through the draft from left to right, so that a wrong shape before that place is noticed first.
-/

namespace TableFilter.Json

/-- A value as far as it could be read. The place where the text stops being JSON is a broken
part, and after it nothing follows in the containers around it. The name of a member is none where
it is no text, or where no member stands at all. -/
inductive Draft where
  | broken
  | null
  | bool (b : Bool)
  | number (value : Option Number)
  | string (value : Option String)
  | array (items : List Draft)
  | object (members : List (Option String × Draft))
  deriving Repr

namespace Draft

mutual

def ofValue : Value → Draft
  | .null => .null
  | .bool b => .bool b
  | .number n => .number (some n)
  | .string s => .string (some s)
  | .array items => .array (ofItems items)
  | .object members => .object (ofMembers members)

def ofItems : List Value → List Draft
  | [] => []
  | v :: rest => ofValue v :: ofItems rest

def ofMembers : List (String × Value) → List (Option String × Draft)
  | [] => []
  | (name, v) :: rest => (some name, ofValue v) :: ofMembers rest

end

mutual

/-- Whether the text is JSON through the whole of a value. Numbers of any size and halves of
surrogate pairs are JSON. -/
def isWhole : Draft → Bool
  | .broken => false
  | .null | .bool _ | .number _ | .string _ => true
  | .array items => areWhole items
  | .object members => areWholeMembers members

/-- Whether the text is JSON through all items of an array. -/
def areWhole : List Draft → Bool
  | [] => true
  | d :: rest => d.isWhole && areWhole rest

/-- Whether the text is JSON through all members of an object. -/
def areWholeMembers : List (Option String × Draft) → Bool
  | [] => true
  | (_, d) :: rest => d.isWhole && areWholeMembers rest

end

/-- A container that is still open, with what it holds so far, last first: an array, an object
between two members, or an object in front of the value of a member. -/
inductive Frame where
  | array (items : List Draft)
  | object (members : List (Option String × Draft))
  | member (members : List (Option String × Draft)) (name : Option String)
  deriving Repr

/-- What may come next. -/
inductive Awaiting where
  | value
  | firstItem
  | firstName
  | name
  | colon
  | separator
  deriving DecidableEq, Repr

/-- The draft of a text that breaks off inside the given containers. -/
def brokenIn (inner : Draft) : List Frame → Draft
  | [] => inner
  | .array items :: frames => brokenIn (.array (inner :: items).reverse) frames
  | .object members :: frames =>
    brokenIn (.object ((none, .broken) :: members).reverse) frames
  | .member members name :: frames =>
    brokenIn (.object ((name, inner) :: members).reverse) frames

/-- A whole text: the draft of its value, and whether anything follows the value. -/
structure Document where
  root : Draft
  trailing : Bool
  deriving Repr

/-- The value that one token stands for. -/
def ofToken? : Token → Option Draft
  | .null => some .null
  | .bool b => some (.bool b)
  | .number n => some (.number n)
  | .string s => some (.string s)
  | _ => none

/-- The containers around a value when it has been put into the innermost one; nothing if there is
none around it. -/
def place? (d : Draft) : List Frame → Option (List Frame)
  | .array items :: frames => some (.array (d :: items) :: frames)
  | .member members name :: frames => some (.object ((name, d) :: members) :: frames)
  | _ => none

/-- What a token does to the containers that are open. -/
inductive Step where
  | goOn (next : Awaiting) (frames : List Frame)
  | finish (d : Draft) (frames : List Frame)
  | breakOff

/-- The step of a token where a value may stand. -/
def valueStep (t : Token) (frames : List Frame) : Step :=
  match t with
  | .openArray => .goOn .firstItem (.array [] :: frames)
  | .openObject => .goOn .firstName (.object [] :: frames)
  | t => match ofToken? t with
    | some d => .finish d frames
    | none => .breakOff

/-- The step of a token where the name of a member may stand. -/
def nameStep (t : Token) : List Frame → Step
  | .object members :: frames =>
    match t with
    | .string name => .goOn .colon (.member members name :: frames)
    | _ => .breakOff
  | _ => .breakOff

/-- The step of a closing bracket; that of a container which does not end with it breaks off. -/
def closeStep (t : Token) : List Frame → Step
  | .array items :: frames =>
    if t = .closeArray then .finish (.array items.reverse) frames else .breakOff
  | .object members :: frames =>
    if t = .closeObject then .finish (.object members.reverse) frames else .breakOff
  | _ => .breakOff

/-- The step that a token makes. -/
def step (t : Token) : Awaiting → List Frame → Step
  | .value, frames => valueStep t frames
  | .name, frames => nameStep t frames
  | .colon, frames => if t = .colon then .goOn .value frames else .breakOff
  | .firstItem, frames => if t = .closeArray then closeStep t frames else valueStep t frames
  | .firstName, frames => if t = .closeObject then closeStep t frames else nameStep t frames
  | .separator, frames =>
    if t = .comma then
      match frames with
      | .array _ :: _ => .goOn .value frames
      | _ => .goOn .name frames
    else closeStep t frames

/-- The draft that tokens make, `frames` being the containers open before them, innermost
first. -/
def ofTokens : List Token → Awaiting → List Frame → Document
  | [], _, frames => ⟨brokenIn .broken frames, false⟩
  | t :: rest, awaiting, frames =>
    match step t awaiting frames with
    | .goOn next frames => ofTokens rest next frames
    | .breakOff => ⟨brokenIn .broken frames, false⟩
    | .finish d frames =>
      match place? d frames with
      | some frames => ofTokens rest .separator frames
      | none => ⟨d, !rest.isEmpty⟩

def Document.ofText (text : String) : Document :=
  ofTokens (tokens text.toList) .value []

end Draft

end TableFilter.Json
