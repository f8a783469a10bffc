import TableFilter.Text.Search

/-!
# Warnings

What is worth telling although nothing has failed.
-/

namespace TableFilter

/-- Something that may be a mistake. -/
inductive Warning where
  | unknownOperator (column operator : String)
  | keywords (found : List String) (blocked : Bool)
  | unknownSettings (names : List String)
  deriving DecidableEq, Repr

def Warning.text : Warning → String
  | .unknownOperator column operator =>
    "Unknown filter operator, falling back to equality|column=" ++ column ++
      "|operator=" ++ operator
  | .keywords found blocked =>
    "Filter contains SQL keywords|keywords=" ++ Text.joined ", " found ++
      "|blocked=" ++ (if blocked then "true" else "false")
  | .unknownSettings names =>
    "Unknown fields in config file (possible typos)|fields=" ++ Text.joined ", " names

end TableFilter
