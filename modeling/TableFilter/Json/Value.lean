import TableFilter.Entries
import TableFilter.Json.Number

/-!
# JSON values and their text

A value with its members in the order in which a text gives them, its text without any blank, and
its text spread over lines.
-/

namespace TableFilter.Json

/-- A JSON value. The members of an object have different names. -/
inductive Value where
  | null
  | bool (b : Bool)
  | number (n : Number)
  | string (s : String)
  | array (items : List Value)
  | object (members : List (String × Value))
  deriving Repr

/-- One character inside a string, escaped where a text must not hold it as it is. -/
def escapedChar (c : Char) : List Char :=
  if c = '"' then ['\\', '"']
  else if c = '\\' then ['\\', '\\']
  else if c = '\x08' then ['\\', 'b']
  else if c = '\x0c' then ['\\', 'f']
  else if c = '\n' then ['\\', 'n']
  else if c = '\r' then ['\\', 'r']
  else if c = '\t' then ['\\', 't']
  else if c.toNat < 16 then ['\\', 'u', '0', '0', '0', Nat.digitChar c.toNat]
  else if c.toNat < 32 then ['\\', 'u', '0', '0', '1', Nat.digitChar (c.toNat - 16)]
  else [c]

def stringChars (s : String) : List Char :=
  '"' :: s.toList.flatMap escapedChar ++ ['"']

/-- The words for what is neither a number, a string nor a container. -/
def nullChars : List Char := ['n', 'u', 'l', 'l']

def boolChars (b : Bool) : List Char :=
  if b then ['t', 'r', 'u', 'e'] else ['f', 'a', 'l', 's', 'e']

namespace Value

mutual

/-- The text of a value without blanks. -/
def chars : Value → List Char
  | .null => nullChars
  | .bool b => boolChars b
  | .number n => n.chars
  | .string s => stringChars s
  | .array items => '[' :: itemsChars items ++ [']']
  | .object members => '\x7b' :: membersChars members ++ ['\x7d']

def itemsChars : List Value → List Char
  | [] => []
  | [v] => v.chars
  | v :: w :: rest => v.chars ++ ',' :: itemsChars (w :: rest)

def membersChars : List (String × Value) → List Char
  | [] => []
  | [(name, v)] => stringChars name ++ ':' :: v.chars
  | (name, v) :: m :: rest => stringChars name ++ ':' :: v.chars ++ ',' :: membersChars (m :: rest)

end

def text (v : Value) : String :=
  String.ofList v.chars

/-- The start of a line at a depth of nesting: two blanks for each container around it. -/
def lineStart (depth : Nat) : List Char :=
  '\n' :: List.replicate (2 * depth) ' '

mutual

/-- The text of a value with a line for each item and member; `depth` containers surround it. -/
def prettyChars (depth : Nat) : Value → List Char
  | .array (v :: rest) =>
    '[' :: prettyItems (depth + 1) (v :: rest) ++ lineStart depth ++ [']']
  | .object (m :: rest) =>
    '\x7b' :: prettyMembers (depth + 1) (m :: rest) ++ lineStart depth ++ ['\x7d']
  | .array [] => ['[', ']']
  | .object [] => ['\x7b', '\x7d']
  | .null => nullChars
  | .bool b => boolChars b
  | .number n => n.chars
  | .string s => stringChars s

def prettyItems (depth : Nat) : List Value → List Char
  | [] => []
  | [v] => lineStart depth ++ v.prettyChars depth
  | v :: w :: rest =>
    lineStart depth ++ v.prettyChars depth ++ ',' :: prettyItems depth (w :: rest)

def prettyMembers (depth : Nat) : List (String × Value) → List Char
  | [] => []
  | [(name, v)] => lineStart depth ++ stringChars name ++ ':' :: ' ' :: v.prettyChars depth
  | (name, v) :: m :: rest =>
    lineStart depth ++ stringChars name ++ ':' :: ' ' :: v.prettyChars depth ++
      ',' :: prettyMembers depth (m :: rest)

end

def pretty (v : Value) : String :=
  String.ofList (v.prettyChars 0)

/-- A value that may be absent, which is then null. -/
def ofOption {α : Type} (toValue : α → Value) : Option α → Value
  | none => .null
  | some a => toValue a

end Value

end TableFilter.Json
