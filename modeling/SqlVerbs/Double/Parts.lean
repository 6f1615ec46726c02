/-!
# The exact value of a double

A finite double is a sign and a natural number times a power of two. Rounding to whole numbers is
integer arithmetic on those parts, so nothing about it depends on a machine instruction.
-/

namespace SqlVerbs.Double

/-- A finite double: `mantissa * 2 ^ exponent`, with the sign kept for zero too. -/
structure Parts where
  negative : Bool
  mantissa : Nat
  exponent : Int
deriving DecidableEq, Repr

/-- What a double can be. -/
inductive Shape where
  | nan
  | infinite (negative : Bool)
  | finite (parts : Parts)
deriving DecidableEq, Repr

/-- Reads the three fields of the binary64 layout. -/
def shape (d : Float) : Shape :=
  let bits : Nat := d.toBits.toNat
  let negative := decide (bits / 0x8000000000000000 = 1)
  let field : Nat := bits / 0x10000000000000 % 0x800
  let fraction : Nat := bits % 0x10000000000000
  if field = 2047 then
    if fraction = 0 then .infinite negative else .nan
  else if field = 0 then .finite ⟨negative, fraction, -1074⟩
  else .finite ⟨negative, 0x10000000000000 + fraction, (field : Int) - 1075⟩

/-- The double that is no number. -/
def nan : Float := 0.0 / 0.0

def infinity : Float := 1.0 / 0.0

/-- Neither infinite nor a NaN. -/
def isFinite (d : Float) : Bool :=
  match shape d with
  | .finite _ => true
  | _ => false

/-- The sign bit, which zeros have as well. -/
def isNegative (d : Float) : Bool :=
  match shape d with
  | .finite parts => parts.negative
  | .infinite negative => negative
  | .nan => false

namespace Parts

/-- Numerator of the value without its sign, over `denominator`. -/
def numerator (p : Parts) : Nat := p.mantissa * Nat.pow 2 p.exponent.toNat

/-- A power of two. -/
def denominator (p : Parts) : Nat := Nat.pow 2 (-p.exponent).toNat

/-- The value with its sign, over `denominator`. -/
def signedNumerator (p : Parts) : Int :=
  if p.negative then -(p.numerator : Int) else (p.numerator : Int)

/-- No fractional part. -/
def isWhole (p : Parts) : Bool := p.numerator % p.denominator = 0

/-- The greatest whole number that is not greater. -/
def floor (p : Parts) : Int := Int.fdiv p.signedNumerator p.denominator

/-- The least whole number that is not smaller. -/
def ceil (p : Parts) : Int := -Int.fdiv (-p.signedNumerator) p.denominator

/-- The whole part. -/
def trunc (p : Parts) : Int := Int.tdiv p.signedNumerator p.denominator

/-- The nearest whole number; a half goes to the even neighbour. -/
def roundEven (p : Parts) : Int :=
  let below := p.floor
  let twice := 2 * (p.signedNumerator - below * p.denominator)
  if twice < p.denominator then below
  else if p.denominator < twice then below + 1
  else if below % 2 = 0 then below else below + 1

/-- The nearest whole number; a half goes away from zero. -/
def roundAway (p : Parts) : Int :=
  let whole : Int := ((2 * p.numerator + p.denominator) / (2 * p.denominator) : Nat)
  if p.negative then -whole else whole

end Parts

/-- Rounds a double by a rule on its exact value. A double without fractional bits is kept as it
is, and a zero result has the sign of the argument. -/
def roundBy (rule : Parts → Int) (d : Float) : Float :=
  match shape d with
  | .finite parts =>
    if 0 ≤ parts.exponent then d
    else
      let whole := rule parts
      if whole = 0 then (if parts.negative then -0.0 else 0.0) else Float.ofInt whole
  | _ => d

def floor (d : Float) : Float := roundBy Parts.floor d

def ceil (d : Float) : Float := roundBy Parts.ceil d

def trunc (d : Float) : Float := roundBy Parts.trunc d

def roundEven (d : Float) : Float := roundBy Parts.roundEven d

def roundAway (d : Float) : Float := roundBy Parts.roundAway d

/-- A finite double without fractional part. -/
def isWhole (d : Float) : Bool :=
  match shape d with
  | .finite parts => parts.isWhole
  | _ => false

def abs (d : Float) : Float := if isNegative d then -d else d

/-- The whole part as an integer between two bounds: values outside go to the nearer bound, and
what is no number counts as zero. -/
def clampTo (low high : Int) (d : Float) : Int :=
  match shape d with
  | .nan => 0
  | .infinite true => low
  | .infinite false => high
  | .finite parts => max low (min high parts.trunc)

/-- The whole part as a 64-bit integer, clamped. -/
def toInt64 (d : Float) : Int64 := Int64.ofInt (clampTo Int64.minValue.toInt Int64.maxValue.toInt d)

/-- The whole part as a natural number of 64 bits, clamped. -/
def toUnsigned (d : Float) : Nat := (clampTo 0 0xffffffffffffffff d).toNat

/-- The double nearest to a 64-bit integer. -/
def ofInt64 (i : Int64) : Float := Float.ofInt i.toInt

end SqlVerbs.Double
