import TableFilter.Text.Ranges
import TableFilter.Text.WordTable

/-!
# Words

A word is a run of letters, digits and underscores of any script. A keyword counts only where it
is a word of its own, so what precedes and follows it matters.
-/

namespace TableFilter.Text

/-- Letters, digits, marks and underscores of all scripts. -/
def isWordChar (c : Char) : Bool :=
  if c.toNat < 128 then c.isAlphanum || c == '_' else inRanges wordRanges c.toNat

/-- Whether a word starts or ends between the characters `before` and `after`; none stands for the
end of the text. -/
def isBoundary (before after : Option Char) : Bool :=
  before.any isWordChar != after.any isWordChar

/-- What follows `keyword`, given in capitals, at the start of a text, in any case of its
letters. -/
def afterKeyword? : List Char → List Char → Option (List Char)
  | [], cs => some cs
  | _ :: _, [] => none
  | k :: keyword, c :: cs => if c.toUpper = k then afterKeyword? keyword cs else none

end TableFilter.Text
