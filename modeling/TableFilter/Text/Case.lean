import TableFilter.Text.CaseTable
import TableFilter.Text.Ranges

/-!
# Upper and lower case

Full case mappings of single characters, and the one mapping that looks at its surroundings: a
capital sigma that ends a word becomes the final form of the small letter.
-/

namespace TableFilter.Text

/-- The code point that the first run holding `n` sends it to. -/
def shifted? (runs : List (Nat × Nat × Nat × Int)) (n : Nat) : Option Char :=
  (runs.find? fun (first, last, every, _) =>
    first ≤ n && n ≤ last && (n - first) % every == 0).map
      fun (_, _, _, shift) => Char.ofNat (n + shift).toNat

/-- The lower-case form of a character that stands alone. -/
def lowerChar (c : Char) : List Char :=
  if c.toNat < 128 then [c.toLower]
  else if c = 'İ' then ['i', '\u0307']
  else [(shifted? lowerRuns c.toNat).getD c]

def upperChar (c : Char) : List Char :=
  if c.toNat < 128 then [c.toUpper]
  else match upperExpansions.find? fun (n, _) => n == c.toNat with
    | some (_, form) => form.map Char.ofNat
    | none => [(shifted? upperRuns c.toNat).getD c]

/-- A letter that has case. -/
def isCased (c : Char) : Bool :=
  if c.toNat < 128 then c.isAlpha else inRanges casedRanges c.toNat

/-- A character that may stand inside a word without ending it. -/
def isCaseIgnorable (c : Char) : Bool :=
  if c.toNat < 128 then ['\'', '.', ':', '^', '\x60'].contains c
  else inRanges caseIgnorableRanges c.toNat

/-- Whether a cased letter comes first, once what a word may hold is passed over. -/
def startsCased (cs : List Char) : Bool :=
  match cs.dropWhile isCaseIgnorable with
  | [] => false
  | c :: _ => isCased c

/-- The lower-case form of the rest of a text; `before` is what precedes it, nearest character
first. -/
def lowerAfter (before : List Char) : List Char → List Char
  | [] => []
  | c :: rest =>
    (if c = 'Σ' then [if startsCased before && !startsCased rest then 'ς' else 'σ']
      else lowerChar c) ++ lowerAfter (c :: before) rest

def lowerChars (cs : List Char) : List Char :=
  lowerAfter [] cs

def upperChars (cs : List Char) : List Char :=
  cs.flatMap upperChar

def upper (s : String) : String :=
  String.ofList (upperChars s.toList)

end TableFilter.Text
