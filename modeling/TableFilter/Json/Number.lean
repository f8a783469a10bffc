import TableFilter.Decimal.Numeral
import TableFilter.Decimal.Shortest

/-!
# Numbers of a JSON text

A numeral without a point or an exponent stays an exact integer as long as it fits 64 bits; every
other numeral is a double.
-/

namespace TableFilter.Json

-- Powers are those of the core library, whatever else gives numbers a power.
attribute [local instance (2000)] instPowNat

open Decimal (Binary64)

/-- A number: an integer from -2⁶³ to 2⁶⁴ - 1, or a double. -/
inductive Number where
  | integer (n : Int) (bounded : -2 ^ (63 : Nat) ≤ n ∧ n < 2 ^ (64 : Nat))
  | double (x : Binary64)
  deriving DecidableEq, Repr

namespace Number

def ofWord (n : UInt64) : Number :=
  .integer n.toNat ⟨by omega, by have := n.toNat_lt; omega⟩

/-- The number that an integer numeral stands for. Minus zero is a double, and so is what does
not fit the integers; a numeral beyond the finite doubles stands for none. -/
def ofInteger? (negative : Bool) (n : Nat) : Option Number :=
  let signed : Int := if negative then -n else n
  if negative && n == 0 then some (.double (.zero true))
  else if h : -2 ^ (63 : Nat) ≤ signed ∧ signed < 2 ^ (64 : Nat) then some (.integer signed h)
  else (Decimal.nearestDouble? negative n 0).map .double

def toDouble? : Number → Option Binary64
  | .integer n _ => Binary64.ofInt? n
  | .double x => some x

/-- Equality of numbers: an integer never equals a double, and the two zeros are equal. -/
def equals : Number → Number → Bool
  | .integer m _, .integer n _ => m == n
  | .double x, .double y => x.equals y
  | _, _ => false

def chars : Number → List Char
  | .integer n _ => (if n < 0 then ['-'] else []) ++ Nat.toDigits 10 n.natAbs
  | .double x => x.chars

def text (n : Number) : String :=
  String.ofList n.chars

end Number

end TableFilter.Json
