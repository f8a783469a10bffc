import TableFilter.Decimal.Binary64

/-!
# Shortest decimal text of a double

Of the decimals that read back as a given double, the text shows one with the fewest digits, and of
those the nearest to the exact value.
-/

namespace TableFilter.Decimal

-- Powers are those of the core library, whatever else gives numbers a power.
attribute [local instance (2000)] instPowNat

/-- The values that round to a double, both ends counted in quarters of a unit of 2⁻¹⁰⁷⁴; the ends
belong to it if the significand is even. -/
structure Basin where
  low : Nat
  exact : Nat
  high : Nat
  closed : Bool

/-- The basin of a positive double. Below a power of two its neighbour is only half as far away. -/
def Basin.of (x : Binary64) : Basin where
  low := (4 * x.significand -
    if x.significand = 2 ^ (52 : Nat) && x.scale != 0 then 1 else 2) * 2 ^ x.scale
  exact := 4 * x.significand * 2 ^ x.scale
  high := (4 * x.significand + 2) * 2 ^ x.scale
  closed := x.significand % 2 == 0

/-- The decimals are counted in units of 10⁻³⁴², finer than any grid that a double needs, and the
basin's quarters of 2⁻¹⁰⁷⁴ are brought to the same scale by two whole factors. -/
def decimalPlaces : Nat := 342

/-- The factor of a basin's end in a comparison with a decimal. -/
def basinFactor : Nat := 10 ^ decimalPlaces

/-- The factor of a decimal in a comparison with a basin's end. -/
def decimalFactor : Nat := 2 ^ (1076 : Nat)

/-- Whether `n` units of 10⁻³⁴² lie in the basin. -/
def Basin.holds (b : Basin) (n : Nat) : Bool :=
  let point := n * decimalFactor
  if b.closed then b.low * basinFactor ≤ point && point ≤ b.high * basinFactor
  else b.low * basinFactor < point && point < b.high * basinFactor

/-- The decimal with the step `10 ^ places` nearest to the exact value among those that lie in the
basin; of two equally near ones the one with the even last digit. -/
def Basin.onGrid? (b : Basin) (places : Nat) : Option Nat :=
  let step := 10 ^ places
  let exact := b.exact * basinFactor
  let below := exact / (decimalFactor * step)
  let above := below + 1
  let belowGap := exact - below * step * decimalFactor
  let aboveGap := above * step * decimalFactor - exact
  match b.holds (below * step), b.holds (above * step) with
  | false, false => none
  | true, false => some below
  | false, true => some above
  | true, true =>
    if belowGap < aboveGap || (belowGap == aboveGap && below % 2 == 0) then some below
    else some above

/-- The coarsest of the grids `10 ^ places`, …, `10 ^ 0` with a decimal in the basin, and that
decimal as digits and step. -/
def Basin.coarsest (b : Basin) : Nat → Nat × Nat
  -- Every basin is wider than the finest grid's step, so the default is never taken.
  | 0 => ((b.onGrid? 0).getD 0, 0)
  | places + 1 =>
    match b.onGrid? (places + 1) with
    | some n => (n, places + 1)
    | none => b.coarsest places

def withoutTrailingZeros (digits : List Char) : List Char :=
  (digits.reverse.dropWhile (· == '0')).reverse

/-- The digits `d₁d₂…` and the exponent `e` of `n` steps of `10 ^ places`, which together say
`d₁.d₂… · 10 ^ e`. -/
def scientific (n places : Nat) : List Char × Int :=
  (withoutTrailingZeros (Nat.toDigits 10 n),
    (places + (Nat.toDigits 10 n).length : Int) - 1 - decimalPlaces)

/-- The place of the first digit of a basin's exact value. -/
def Basin.leading (b : Basin) : Nat :=
  (Nat.toDigits 10 (b.exact * basinFactor / decimalFactor)).length - 1

/-- The digits and the exponent of the shortest decimal of a positive double. -/
def shortestDigits (x : Binary64) : List Char × Int :=
  let found := (Basin.of x).coarsest (Basin.of x).leading
  scientific found.1 found.2

/-- A decimal written out: positional, with at least one digit on each side of the point, from
10⁻⁵ up to 10¹⁶, and otherwise with a signed exponent. -/
def layout (digits : List Char) (exponent : Int) : List Char :=
  if exponent < -5 || 15 < exponent then
    let mantissa := match digits with
      | d :: rest@(_ :: _) => d :: '.' :: rest
      | ds => ds
    mantissa ++ ['e', if exponent < 0 then '-' else '+'] ++ Nat.toDigits 10 exponent.natAbs
  else if exponent < 0 then
    ['0', '.'] ++ List.replicate (exponent.natAbs - 1) '0' ++ digits
  else
    let places := exponent.toNat + 1
    let whole := digits.take places
    let fraction := digits.drop places
    whole ++ List.replicate (places - whole.length) '0' ++
      '.' :: if fraction.isEmpty then ['0'] else fraction

/-- The text of a double without its sign. -/
def Binary64.unsignedChars (x : Binary64) : List Char :=
  if x.significand = 0 then ['0', '.', '0']
  else layout (shortestDigits x).1 (shortestDigits x).2

def Binary64.chars (x : Binary64) : List Char :=
  (if x.negative then ['-'] else []) ++ x.unsignedChars

def Binary64.text (x : Binary64) : String :=
  String.ofList x.chars

end TableFilter.Decimal
