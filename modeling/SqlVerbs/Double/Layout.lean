import SqlVerbs.Double.Shortest

/-!
# Writing doubles

The digits of a double are always the shortest ones that read back; what differs between outputs
is where the point goes. Positional text never has an exponent. SQL text keeps a point or an
exponent, so that the number stays a double on the other side. JSON text is positional in the
middle range and has a signed exponent outside it. Of two equally near shortest decimals JSON text
has the even one, and the others have the greater one.
-/

namespace SqlVerbs.Double

def digitsText (n : Nat) : String := String.ofList (Nat.toDigits 10 n)

def zeros (n : Nat) : String := String.ofList (List.replicate n '0')

namespace Decimal

/-- The power of ten of the first digit. -/
def scale (d : Decimal) : Int := d.power + (decimalWidth d.digits : Int) - 1

/-- Without an exponent, whatever the size. -/
def positional (d : Decimal) : String :=
  let digits := Nat.toDigits 10 d.digits
  let places := (-d.power).toNat
  if 0 ≤ d.power then digitsText d.digits ++ zeros d.power.toNat
  else if places < digits.length then
    String.ofList (digits.take (digits.length - places)) ++ "." ++
      String.ofList (digits.drop (digits.length - places))
  else "0." ++ zeros (places - digits.length) ++ digitsText d.digits

/-- One digit before the point, and no point if there is only one digit. -/
def mantissaText (d : Decimal) : String :=
  match Nat.toDigits 10 d.digits with
  | [] => "0"
  | [only] => String.singleton only
  | first :: rest => String.singleton first ++ "." ++ String.ofList rest

/-- With an exponent that has no plus sign. -/
def scientific (d : Decimal) : String := d.mantissaText ++ "e" ++ toString d.scale

/-- With an exponent that always has a sign. -/
def signedScientific (d : Decimal) : String :=
  d.mantissaText ++ "e" ++ (if 0 ≤ d.scale then "+" else "") ++ toString d.scale

end Decimal

/-- A minus sign where one is due. -/
def signText (negative : Bool) : String := if negative then "-" else ""

/-- Positional text: `1`, `0.1`, `-0`, `NaN`, `inf`, and no exponent at any size. -/
def toText (d : Float) : String :=
  match shape d with
  | .nan => "NaN"
  | .infinite negative => signText negative ++ "inf"
  | .finite p => signText p.negative ++ (p.shortest .greater).positional

namespace Parts

/-- Smaller than `10 ^ (-4)`. -/
def isSmall (p : Parts) : Bool := p.numerator * 10000 < p.denominator

/-- At least `10 ^ 15`. -/
def isLarge (p : Parts) : Bool := p.denominator * 1000000000000000 ≤ p.numerator

/-- SQL text of a finite double. Whole numbers below `10 ^ 15` get one zero after the point, very
small and very large numbers an exponent, and the others are positional. -/
def sqlText (p : Parts) : String :=
  let body :=
    if p.isWhole && !p.isLarge then digitsText (p.numerator / p.denominator) ++ ".0"
    else if p.isSmall || p.isLarge then (p.shortest .greater).scientific
    else (p.shortest .greater).positional
  signText p.negative ++ body

end Parts

/-- JSON text of a finite double: positional, with `.0` on whole numbers, as long as the first
digit stands between `10 ^ (-5)` and `10 ^ 15`. -/
def jsonText (d : Float) : String :=
  match shape d with
  | .nan => "null"
  | .infinite _ => "null"
  | .finite p =>
    let decimal := p.shortest .even
    let body :=
      if decimal.digits = 0 then "0.0"
      else if -5 ≤ decimal.scale ∧ decimal.scale ≤ 15 then
        decimal.positional ++ (if 0 ≤ decimal.power then ".0" else "")
      else decimal.signedScientific
    signText p.negative ++ body

end SqlVerbs.Double
