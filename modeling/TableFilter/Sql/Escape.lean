/-!
# Escaping in SQL texts

How names and texts are put into an SQL text so that they end where they should, and how a text is
put into a pattern so that it stands for itself.
-/

namespace TableFilter.Sql

/-- How a text is written in the dialect at hand: servers that take a backslash in a literal for an
escape need it doubled. -/
structure Options where
  escapeBackslashes : Bool
  deriving DecidableEq, Repr

/-- A backslash stands for itself, unless it is said otherwise. -/
instance : Inhabited Options :=
  ⟨⟨false⟩⟩

def literalChar (escapeBackslashes : Bool) (c : Char) : List Char :=
  if c = '\'' then ['\'', '\'']
  else if c = '\\' && escapeBackslashes then ['\\', '\\']
  else [c]

def likeChar (c : Char) : List Char :=
  if c = '\\' || c = '%' || c = '_' then ['\\', c] else [c]

/-- The characters with a meaning of their own in a regular expression. -/
def metacharacters : List Char :=
  ['.', '*', '+', '?', '^', '$', '\x7b', '\x7d', '(', ')', '|', '[', ']', '\\']

def regexChar (c : Char) : List Char :=
  if metacharacters.contains c then ['\\', c] else [c]

/-- The text between the quotes of a literal: quotes are doubled, and backslashes too if they
escape. -/
def escapeLiteral (escapeBackslashes : Bool) (s : String) : String :=
  String.ofList (s.toList.flatMap (literalChar escapeBackslashes))

/-- A text as a part of a `LIKE` pattern that stands for itself. -/
def escapeLike (s : String) : String :=
  String.ofList (s.toList.flatMap likeChar)

/-- A text as a regular expression that stands for itself. -/
def escapeRegex (s : String) : String :=
  String.ofList (s.toList.flatMap regexChar)

def quoteLiteral (escapeBackslashes : Bool) (s : String) : String :=
  "'" ++ escapeLiteral escapeBackslashes s ++ "'"

/-- A name between backticks; it must not hold one. -/
def quoteName (name : String) : String :=
  "\x60" ++ name ++ "\x60"

end TableFilter.Sql
