import SqlVerbs.Double.Parts

/-!
# Reading doubles

A decimal number is an optional sign, digits with an optional point, at least one digit in all, and
an optional exponent. The words `inf`, `infinity` and `nan` are numbers too, in any letter case.
The result is the nearest double.
-/

namespace SqlVerbs.Double

/-- The value of a list of decimal digits. -/
def digitsValue (digits : List Char) : Nat :=
  digits.foldl (fun acc c => 10 * acc + (c.toNat - '0'.toNat)) 0

/-- The nearest double to `mantissa * 10 ^ exponent`. Beyond 400 places the answer is known without
the power of ten: too large for a double, or too small. -/
def ofDecimal (mantissa : Nat) (exponent : Int) : Float :=
  let size := (Nat.toDigits 10 mantissa).length + exponent
  if mantissa = 0 then 0.0
  else if 400 < size then infinity
  else if size < -400 then 0.0
  else if exponent < 0 then Float.ofScientific mantissa true exponent.natAbs
  else Float.ofScientific mantissa false exponent.natAbs

/-- Splits off an optional sign. -/
def splitSign : List Char → Bool × List Char
  | '-' :: rest => (true, rest)
  | '+' :: rest => (false, rest)
  | chars => (false, chars)

/-- An exponent: nothing, or `e` with an optional sign and at least one digit. -/
def readExponent? : List Char → Option Int
  | [] => some 0
  | c :: rest =>
    let (negative, digits) := splitSign rest
    if (c = 'e' ∨ c = 'E') ∧ digits ≠ [] ∧ digits.all Char.isDigit then
      let value : Int := digitsValue digits
      some (if negative then -value else value)
    else none

/-- Digits with an optional point and an optional exponent, without a sign. -/
def readUnsigned? (chars : List Char) : Option Float := do
  let whole := chars.takeWhile Char.isDigit
  let afterWhole := chars.dropWhile Char.isDigit
  let (places, tail) :=
    match afterWhole with
    | '.' :: rest => (rest.takeWhile Char.isDigit, rest.dropWhile Char.isDigit)
    | _ => ([], afterWhole)
  if whole = [] ∧ places = [] then none
  let exponent ← readExponent? tail
  some (ofDecimal (digitsValue (whole ++ places)) (exponent - places.length))

/-- Reads a whole text as a double. -/
def ofText? (text : String) : Option Float :=
  let (negative, body) := splitSign text.toList
  let lower := String.ofList (body.map Char.toLower)
  let value :=
    if lower = "inf" ∨ lower = "infinity" then some infinity
    else if lower = "nan" then some nan
    else readUnsigned? body
  value.map (fun d => if negative then -d else d)

end SqlVerbs.Double
