import TableFilter.Decimal.Binary64
import TableFilter.Text.Blank

/-!
# Decimal numerals

What a numeral denotes is an integer times a power of ten; its double is the nearest one to that
exact value.
-/

namespace TableFilter.Decimal

-- Powers are those of the core library, whatever else gives numbers a power.
attribute [local instance (2000)] instPowNat

/-- The number that a row of decimal digits denotes. -/
def digitsValue (digits : List Char) : Nat :=
  digits.foldl (fun n c => 10 * n + (c.toNat - 48)) 0

/-- `coefficient · 10 ^ exponent`, with a sign, as the nearest double. A value whose decimal size
lies far outside that of the finite numbers is settled by its size alone. -/
def nearestDouble? (negative : Bool) (coefficient : Nat) (exponent : Int) : Option Binary64 :=
  if coefficient = 0 then some (.zero negative)
  else
    let size := (Nat.toDigits 10 coefficient).length + exponent
    if size > 310 then none
    else if size < -330 then some (.zero negative)
    else if 0 ≤ exponent then
      Binary64.nearest? negative (coefficient * 10 ^ exponent.toNat * 2 ^ (1074 : Nat)) 1
    else Binary64.nearest? negative (coefficient * 2 ^ (1074 : Nat)) (10 ^ (-exponent).toNat)

/-- A numeral: its sign, the digits before and after the point, and the power of ten. -/
structure Numeral where
  negative : Bool
  whole : List Char
  fraction : List Char
  exponent : Int
  deriving DecidableEq, Repr

def Numeral.toDouble? (n : Numeral) : Option Binary64 :=
  nearestDouble? n.negative (digitsValue (n.whole ++ n.fraction)) (n.exponent - n.fraction.length)

/-- A sign in front of a numeral, and what follows it. -/
def takeSign : List Char → Bool × List Char
  | '-' :: rest => (true, rest)
  | '+' :: rest => (false, rest)
  | cs => (false, cs)

def takeDigits (cs : List Char) : List Char × List Char :=
  (cs.takeWhile Char.isDigit, cs.dropWhile Char.isDigit)

/-- A power of ten after an `e`: a sign and at least one digit. -/
def exponentOf? (cs : List Char) : Option (Int × List Char) :=
  let (negative, cs) := takeSign cs
  let (digits, rest) := takeDigits cs
  if digits.isEmpty then none
  else some (if negative then -(digitsValue digits : Int) else digitsValue digits, rest)

/-- The number written in free text, blanks around it aside: a sign, digits with a point anywhere
among them or at their ends, and a power of ten. Words such as `inf` are no numbers, and neither
is a numeral beyond the finite numbers. -/
def ofText? (s : String) : Option Binary64 :=
  let (negative, cs) := takeSign (Text.trimChars s.toList)
  let (whole, cs) := takeDigits cs
  let (fraction, cs) := match cs with
    | '.' :: cs => takeDigits cs
    | cs => ([], cs)
  if whole.isEmpty && fraction.isEmpty then none
  else match cs with
    | [] => (Numeral.mk negative whole fraction 0).toDouble?
    | c :: cs =>
      if c = 'e' || c = 'E' then
        match exponentOf? cs with
        | some (exponent, []) => (Numeral.mk negative whole fraction exponent).toDouble?
        | _ => none
      else none

end TableFilter.Decimal
