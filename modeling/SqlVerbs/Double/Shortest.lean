import SqlVerbs.Double.Parts

/-!
# The fewest decimal digits that read back

Every real number nearer to a finite double than to its neighbours reads as that double. Of all
decimals in that interval the printer takes one with the fewest digits, and of those the nearest.
An exact tie goes to the greater one or to the even one, as the format has it.

For each number of digits from 1 to 17 the two neighbours of the value on that decimal grid are
tested in exact arithmetic. Seventeen digits always suffice.
-/

namespace SqlVerbs.Double

/-- A positive decimal: `digits * 10 ^ power`. -/
structure Decimal where
  digits : Nat
  power : Int
deriving DecidableEq, Repr

namespace Decimal

/-- Scaled so that both sides of a comparison of `digits * 10 ^ power` with `x * 2 ^ exponent` are
natural numbers. -/
def leftSide (d : Decimal) (exponent : Int) : Nat :=
  d.digits * Nat.pow 10 d.power.toNat * Nat.pow 2 (-exponent).toNat

/-- The other side of the comparison. -/
def rightSide (d : Decimal) (x : Nat) (exponent : Int) : Nat :=
  x * Nat.pow 2 exponent.toNat * Nat.pow 10 (-d.power).toNat

end Decimal

/-- The reals that read as one double, in quarters of its unit: from `low` to `high`, both ends
included when the mantissa is even. -/
structure ReadInterval where
  low : Nat
  high : Nat
  exponent : Int
  closed : Bool
deriving DecidableEq, Repr

namespace ReadInterval

/-- Half a unit to each side; a quarter below a power of two, where the units get finer. -/
def ofParts (p : Parts) : ReadInterval :=
  let quarters := 4 * p.mantissa
  -- Below the least normal double the units stay the same.
  let below := if p.mantissa = 0x10000000000000 ∧ -1074 < p.exponent then 1 else 2
  ⟨quarters - below, quarters + 2, p.exponent - 2, p.mantissa % 2 = 0⟩

/-- Does the decimal read as the double? -/
def holds (r : ReadInterval) (d : Decimal) : Bool :=
  let value := d.leftSide r.exponent
  let low := d.rightSide r.low r.exponent
  let high := d.rightSide r.high r.exponent
  if r.closed then low ≤ value ∧ value ≤ high else low < value ∧ value < high

end ReadInterval

/-- The number of decimal digits of a natural number; zero has one. -/
def decimalWidth (n : Nat) : Nat := (Nat.toDigits 10 n).length

/-- The `k` with `10 ^ (k - 1) ≤ value < 10 ^ k`. No positive double is below `10 ^ (-324)`, so
340 places before the point are enough to see its first digit. -/
def Parts.magnitude (p : Parts) : Int :=
  decimalWidth (p.numerator * Nat.pow 10 340 / p.denominator) - 340

/-- The value's lower neighbour among the decimals with the given power of ten. -/
def Parts.neighbour (p : Parts) (power : Int) : Decimal :=
  ⟨p.numerator * Nat.pow 10 (-power).toNat / (p.denominator * Nat.pow 10 power.toNat), power⟩

/-- Is the value nearer to the lower neighbour than to the one above? -/
def Parts.nearerBelow (p : Parts) (d : Decimal) : Bool :=
  let midpoint : Decimal := ⟨2 * d.digits + 1, d.power⟩
  midpoint.rightSide (2 * p.mantissa) p.exponent < midpoint.leftSide p.exponent

/-- Is the value as far from the lower neighbour as from the one above? -/
def Parts.isMidpoint (p : Parts) (d : Decimal) : Bool :=
  let midpoint : Decimal := ⟨2 * d.digits + 1, d.power⟩
  midpoint.rightSide (2 * p.mantissa) p.exponent = midpoint.leftSide p.exponent

/-- Which of two equally near decimals is taken. -/
inductive Tie where
  | greater
  | even
deriving DecidableEq, Repr

/-- Is the lower neighbour the better one of the two? -/
def Parts.prefersBelow (p : Parts) (tie : Tie) (d : Decimal) : Bool :=
  p.nearerBelow d || (tie = .even && p.isMidpoint d && d.digits % 2 = 0)

/-- The best decimal with the given power of ten that reads back, if there is one. -/
def Parts.onGrid (p : Parts) (tie : Tie) (power : Int) : Option Decimal :=
  let interval := ReadInterval.ofParts p
  let below := p.neighbour power
  let above : Decimal := ⟨below.digits + 1, power⟩
  if interval.holds below then
    if interval.holds above ∧ ¬ p.prefersBelow tie below then some above else some below
  else if interval.holds above then some above
  else none

/-- Moves factors of ten from the digits into the power. -/
def Decimal.stripZeros : Nat → Decimal → Decimal
  | 0, d => d
  | fuel + 1, d =>
    if d.digits ≠ 0 ∧ d.digits % 10 = 0 then stripZeros fuel ⟨d.digits / 10, d.power + 1⟩ else d

/-- Tries 1, 2, … digits. The exact value is the last resort, which is never reached. -/
def Parts.shortestFrom (p : Parts) (tie : Tie) (magnitude : Int) : List Nat → Decimal
  | [] => ⟨p.numerator * Nat.pow 5 (-p.exponent).toNat, min p.exponent 0⟩
  | width :: wider =>
    match p.onGrid tie (magnitude - width) with
    | some d => d
    | none => shortestFrom p tie magnitude wider

/-- The shortest decimal that reads back, without its sign; zero is `0`. -/
def Parts.shortest (p : Parts) (tie : Tie) : Decimal :=
  if p.mantissa = 0 then ⟨0, 0⟩
  else ((p.shortestFrom tie p.magnitude ((List.range 17).map (· + 1))).stripZeros 20)

end SqlVerbs.Double
