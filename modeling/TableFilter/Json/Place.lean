import TableFilter.Decimal.Numeral
import TableFilter.Decimal.Word

/-!
# Places in a text

A reason may end with the place in a text that it is about, as in ` at line 3 column 7`. What is
told of a reason leaves that place out. Main statement: nothing else is left out.
-/

namespace TableFilter.Json

/-- What follows the number of 64 bits that a text starts with. -/
def afterNumber? (cs : List Char) : Option (List Char) :=
  let (digits, rest) := Decimal.takeDigits cs
  match digits, Decimal.wordFrom 0 digits with
  | _ :: _, .ok _ => some rest
  | _, _ => none

/-- Whether a text is a place, with nothing behind it. -/
def isPlace (cs : List Char) : Bool :=
  let behind? := do
    let cs ← " at line ".toList.isPrefixOf? cs
    let cs ← afterNumber? cs
    let cs ← " column ".toList.isPrefixOf? cs
    afterNumber? cs
  behind? == some []

/-- A text without the place that it ends with. A place in front of that one is kept. -/
def dropPlace : List Char → List Char
  | [] => []
  | c :: cs => if isPlace (c :: cs) then [] else c :: dropPlace cs

/-- What is dropped is nothing or a place. -/
theorem dropPlace_append (cs : List Char) :
    ∃ dropped, (dropped = [] ∨ isPlace dropped = true) ∧ dropPlace cs ++ dropped = cs := by
  induction cs with
  | nil => exact ⟨[], .inl rfl, rfl⟩
  | cons c cs ih =>
    rw [dropPlace]
    split
    case isTrue hplace => exact ⟨c :: cs, .inr hplace, rfl⟩
    case isFalse =>
      obtain ⟨dropped, hdropped, happend⟩ := ih
      exact ⟨dropped, hdropped, congrArg (c :: ·) happend⟩

/-- The text of a reason without the place that it ends with. -/
def withoutPlace (reason : String) : String :=
  String.ofList (dropPlace reason.toList)

end TableFilter.Json
