/-!
# Double-precision numbers

The finite numbers of the IEEE 754 format of 64 bits, as exact values. All of them are whole
multiples of the least positive one, 2⁻¹⁰⁷⁴, so a number is an integer count of that unit and the
order of numbers is the order of integers.
-/

namespace TableFilter.Decimal

-- Powers are those of the core library, whatever else gives numbers a power.
attribute [local instance (2000)] instPowNat

/-- A finite double: `significand · 2 ^ scale` units of 2⁻¹⁰⁷⁴ with a sign. The significand has 53
bits, and its top bit is set unless the scale is the least; so each number but zero has one form,
and zero has one form of each sign. -/
structure Binary64 where
  negative : Bool
  significand : Nat
  scale : Nat
  canonical : significand < 2 ^ (53 : Nat) ∧ scale ≤ 2045 ∧
    (scale = 0 ∨ 2 ^ (52 : Nat) ≤ significand)
  deriving DecidableEq, Repr

namespace Binary64

def zero (negative : Bool) : Binary64 :=
  ⟨negative, 0, 0, by decide⟩

def one : Binary64 :=
  ⟨false, 2 ^ (52 : Nat), 1022, by decide⟩

/-- The absolute value, counted in units of 2⁻¹⁰⁷⁴. -/
def size (x : Binary64) : Nat :=
  x.significand * 2 ^ x.scale

/-- The exact value, counted in units of 2⁻¹⁰⁷⁴; both zeros count as zero. -/
def units (x : Binary64) : Int :=
  if x.negative then -(x.size : Int) else x.size

def equals (x y : Binary64) : Bool :=
  x.units == y.units

def lessThan (x y : Binary64) : Bool :=
  x.units < y.units

/-- `numerator / denominator` as a whole number: the nearest one, and the even one of two that are
equally near. -/
def roundToEven (numerator denominator : Nat) : Nat :=
  let quotient := numerator / denominator
  let twice := 2 * (numerator % denominator)
  if twice < denominator || (twice == denominator && quotient % 2 == 0) then quotient
  else quotient + 1

/-- The number of a significand and scale, if there is one. -/
def ofParts? (negative : Bool) (significand scale : Nat) : Option Binary64 :=
  if h : significand < 2 ^ (53 : Nat) ∧ scale ≤ 2045 ∧
      (scale = 0 ∨ 2 ^ (52 : Nat) ≤ significand) then
    some ⟨negative, significand, scale, h⟩
  else none

/-- The double nearest to `numerator / denominator` units of 2⁻¹⁰⁷⁴, of two equally near ones the
one with the even significand; nothing if that is beyond the finite numbers. -/
def nearest? (negative : Bool) (numerator denominator : Nat) : Option Binary64 :=
  let scale := (numerator / denominator).log2 - 52
  let significand := roundToEven numerator (denominator * 2 ^ scale)
  if significand = 2 ^ (53 : Nat) then ofParts? negative (2 ^ (52 : Nat)) (scale + 1)
  else ofParts? negative significand scale

def ofInt? (n : Int) : Option Binary64 :=
  nearest? (n < 0) (n.natAbs * 2 ^ (1074 : Nat)) 1

/-- The finite number that 64 bits stand for: a sign, eleven bits of exponent and 52 of fraction. -/
def ofBits? (bits : UInt64) : Option Binary64 :=
  let n := bits.toNat
  let exponent := n / 2 ^ (52 : Nat) % 2 ^ (11 : Nat)
  let fraction := n % 2 ^ (52 : Nat)
  if exponent = 0 then ofParts? (2 ^ (63 : Nat) ≤ n) fraction 0
  else ofParts? (2 ^ (63 : Nat) ≤ n) (2 ^ (52 : Nat) + fraction) (exponent - 1)

def toBits (x : Binary64) : UInt64 :=
  UInt64.ofNat
    ((if x.negative then 2 ^ (63 : Nat) else 0) + x.scale * 2 ^ (52 : Nat) + x.significand)

end Binary64

end TableFilter.Decimal
