import TableFilter.Decimal.Numeral

/-!
# Whole numbers of 64 bits
-/

namespace TableFilter.Decimal

/-- Why a text is no whole number of 64 bits. -/
inductive WordFault where
  | noDigit
  | tooLarge
  deriving DecidableEq, Repr

/-- Reads digits behind a number `n`, up to the first that is no digit or makes the number too
large. -/
def wordFrom (n : Nat) : List Char → Except WordFault UInt64
  | [] => .ok (.ofNat n)
  | c :: rest =>
    if !c.isDigit then .error .noDigit
    else
      let n := 10 * n + (c.toNat - 48)
      if n < UInt64.size then wordFrom n rest else .error .tooLarge

/-- Reads a whole number, which may have a plus in front. -/
def readWord (s : String) : Except WordFault UInt64 :=
  match s.toList with
  | [] | ['+'] => .error .noDigit
  | '+' :: rest => wordFrom 0 rest
  | cs => wordFrom 0 cs

def WordFault.text : WordFault → String
  | .noDigit => "invalid digit found in string"
  | .tooLarge => "number too large to fit in target type"

end TableFilter.Decimal
