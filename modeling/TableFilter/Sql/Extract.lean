import TableFilter.Text.Blank
import TableFilter.Text.Word

/-!
# Parts of a statement

Recovers the condition and the order of an SQL text by its keywords alone. The first keyword that
is a word of its own and has something behind it starts the part, and the first keyword after that
ends it, even inside a literal.
-/

namespace TableFilter.Sql

open Text (afterKeyword? dropBlanks isBlank isBoundary)

/-- What follows a keyword that starts at a text as a word of its own, `before` being the character
in front of the text. The end of the word is not looked at. -/
def openedBy? (keyword : String) (before : Option Char) (cs : List Char) : Option (List Char) :=
  if isBoundary before cs.head? then afterKeyword? keyword.toList cs else none

/-- What follows the blanks at the start of a text, of which there must be some. -/
def afterBlanks? (cs : List Char) : Option (List Char) :=
  match cs with
  | c :: rest => if isBlank c then some (dropBlanks rest) else none
  | [] => none

def openedByOrder? (before : Option Char) (cs : List Char) : Option (List Char) := do
  let cs ← openedBy? "ORDER" before cs
  let cs ← afterBlanks? cs
  afterKeyword? "BY".toList cs

/-- Whether a text ends a word of letters that stands in front of it. -/
def endsWord (cs : List Char) : Bool :=
  isBoundary (some 'Y') cs.head?

/-- Whether `LIMIT` starts at a text as a word of its own. -/
def atLimit (before : Option Char) (cs : List Char) : Bool :=
  (openedBy? "LIMIT" before cs).any endsWord

/-- Whether `ORDER BY` starts at a text as words of their own. -/
def atOrder (before : Option Char) (cs : List Char) : Bool :=
  (openedByOrder? before cs).any endsWord

/-- Whether the text ends, or what ends a part of it comes next, once the blanks in front are
passed over. -/
def isEnd (atEnd : Option Char → List Char → Bool) (before : Char) : List Char → Bool
  | [] => true
  | c :: rest => if isBlank c then isEnd atEnd c rest else atEnd (some before) (c :: rest)

/-- The part of a text that starts with its first character and goes on to what ends it. -/
def partFrom (atEnd : Option Char → List Char → Bool) : List Char → List Char
  | [] => []
  | c :: rest => if isEnd atEnd c rest then [c] else c :: partFrom atEnd rest

/-- The first text in which something is opened and not followed by blanks alone; what stands
behind the opening and the blanks after it is its body. -/
def body? (opened? : Option Char → List Char → Option (List Char)) (before : Option Char) :
    List Char → Option (List Char)
  | [] => none
  | c :: rest =>
    match (opened? before (c :: rest)).bind afterBlanks? with
    -- With nothing but blanks behind it, the opening does not count and the search goes on.
    | some (b :: body) => some (b :: body)
    | _ => body? opened? (some c) rest

/-- The part of a text that something opens and something else ends. -/
def part? (opened? : Option Char → List Char → Option (List Char))
    (atEnd : Option Char → List Char → Bool) (sql : String) : Option String :=
  (body? opened? none sql.toList).map fun body => String.ofList (partFrom atEnd body)

/-- The condition of a statement: what follows `WHERE`, up to `ORDER BY`, `LIMIT` or the end. -/
def extractWhere? (sql : String) : Option String :=
  part? (openedBy? "WHERE") (fun before cs => atOrder before cs || atLimit before cs) sql

/-- The order of a statement: what follows `ORDER BY`, up to `LIMIT` or the end. -/
def extractOrderBy? (sql : String) : Option String :=
  part? openedByOrder? atLimit sql

end TableFilter.Sql
