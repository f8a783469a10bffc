/-!
# Lists inside a text
-/

namespace TableFilter.Text

/-- The parts of a text between the places where a character stands. -/
def splitChars (separator : Char) : List Char → List (List Char)
  | [] => [[]]
  | c :: rest =>
    if c = separator then [] :: splitChars separator rest
    else match splitChars separator rest with
      | [] => [[c]]
      | part :: parts => (c :: part) :: parts

def splitCommas (s : String) : List String :=
  (splitChars ',' s.toList).map String.ofList

end TableFilter.Text
