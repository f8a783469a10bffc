/-!
# Identifiers

The names of tables and columns: ASCII letters, digits and underscores, no digit first.
-/

namespace TableFilter

def isIdentifierStart (c : Char) : Bool :=
  c.isAlpha || c == '_'

def isIdentifierPart (c : Char) : Bool :=
  c.isAlphanum || c == '_'

def isIdentifier (s : String) : Bool :=
  match s.toList with
  | [] => false
  | c :: rest => isIdentifierStart c && rest.all isIdentifierPart

/-- The name of a table or column. -/
structure Identifier where
  name : String
  valid : isIdentifier name = true
  deriving DecidableEq, Repr

/-- The identifier with a given name, if the name may be one. -/
def Identifier.ofString? (s : String) : Option Identifier :=
  if h : isIdentifier s = true then some ⟨s, h⟩ else none

/-- The shortest of the identifiers. -/
instance : Inhabited Identifier :=
  ⟨⟨"_", by decide⟩⟩

end TableFilter
