import SqlVerbs.Local.Coercion

/-!
# Arithmetic, comparison and logic

Operations go element by element and repeat the shorter operand. Integer results that do not fit in
64 bits are missing.
-/

namespace SqlVerbs.Local

/-! ## Integers -/

/-- The 64-bit integer with a value, if there is one. -/
def fit (n : Int) : Option Int64 :=
  if Int64.minValue.toInt ≤ n ∧ n ≤ Int64.maxValue.toInt then some (Int64.ofInt n) else none

inductive ArithOp where
  | add
  | sub
  | mul
  | div
  | pow
  /-- The remainder of `floorDiv`. -/
  | mod
  | floorDiv
deriving DecidableEq, Repr

def ArithOp.ofName? : String → Option ArithOp
  | "+" => some .add
  | "-" => some .sub
  | "*" => some .mul
  | "/" => some .div
  | "^" => some .pow
  | "%%" => some .mod
  | "%/%" => some .floorDiv
  | _ => none

/-- Is the quotient of two integers undefined, or too large for 64 bits? -/
def quotientFails (x y : Int64) : Bool := y = 0 || (x = Int64.minValue && y = -1)

/-- The remainder with the sign of the divisor, from the machine remainder, which has the sign of
the dividend. -/
def integerMod (x y : Int64) : Option Int64 :=
  if quotientFails x y then none
  else
    let r := x % y
    if r ≠ 0 && decide (r < 0) != decide (y < 0) then some (r + y) else some r

/-- The quotient rounded down, from the machine quotient, which is rounded toward zero. -/
def integerFloorDiv (x y : Int64) : Option Int64 :=
  if quotientFails x y then none
  else
    let q := x / y
    if x % y ≠ 0 && decide (x < 0) != decide (y < 0) then fit (q.toInt - 1) else some q

/-- An operation on integers; it is missing where the result does not fit. -/
def integerOp (op : ArithOp) (x y : Option Int64) : Option Int64 := do
  let x ← x
  let y ← y
  match op with
  | .add => fit (x.toInt + y.toInt)
  | .sub => fit (x.toInt - y.toInt)
  | .mul => fit (x.toInt * y.toInt)
  | .mod => integerMod x y
  | .floorDiv => integerFloorDiv x y
  -- These keep no integers, so `arith` never asks.
  | .div | .pow => none

/-! ## Doubles -/

def doubleOp (op : ArithOp) (x y : Option Float) : Option Float := do
  let x ← x
  let y ← y
  match op with
  | .add => some (x + y)
  | .sub => some (x - y)
  | .mul => some (x * y)
  | .div => some (x / y)
  | .pow => some (Float.pow x y)
  | .mod => some (x - Double.floor (x / y) * y)
  | .floorDiv => some (Double.floor (x / y))

/-- Division and powers are always of doubles. -/
def ArithOp.keepsIntegers : ArithOp → Bool
  | .div | .pow => false
  | _ => true

/-- A binary operation on two values. -/
def arith (op : ArithOp) (l r : Value) : Except Reason Value := do
  let a ← numeric l "binary operator"
  let b ← numeric r "binary operator"
  let onIntegers := op.keepsIntegers && integerLike a && integerLike b
  return .atomic ((recycle a b).map fun (x, y) =>
    if onIntegers then .integer (integerOp op (toInt? x) (toInt? y))
    else .double (doubleOp op x.toDouble? y.toDouble?))

/-- The number with the opposite sign. -/
def negateLiteral : Literal → Literal
  | .integer value => .integer (value.bind (fun i => fit (-i.toInt)))
  | .logical value => .integer ((toInt? (.logical value)).bind (fun i => fit (-i.toInt)))
  | l => .double (l.toDouble?.map (fun d => -d))

def negate (v : Value) : Except Reason Value := do
  return .atomic ((← numeric v "unary operator").map negateLiteral)

/-- Applies a function on doubles to every element. -/
def mapDouble (f : Float → Float) (v : Value) : Except Reason Value := do
  return .atomic ((← numeric v "mathematical function").map fun l => .double (l.toDouble?.map f))

/-- The absolute value; of integers it is an integer. -/
def absolute (v : Value) : Except Reason Value := do
  let items ← numeric v "math function"
  if integerLike items then
    return .atomic (items.map fun l =>
      .integer ((toInt? l).bind (fun i => fit (i.toInt.natAbs : Int))))
  else mapDouble Double.abs v

/-- The logarithm to a base. -/
def logarithm (base : Value) (v : Value) : Except Reason Value := do
  let base ← scalarDouble base "base"
  mapDouble (fun d => Float.log d / Float.log base) v

/-- The power by repeated squaring: `result * base ^ n`. -/
def powNat (base : Float) (result : Float) (n : Nat) : Float :=
  if h : n = 0 then result
  else
    let result := if n % 2 = 1 then result * base else result
    powNat (base * base) result (n / 2)
termination_by n
decreasing_by omega

/-- A power with a whole exponent; for a negative one it is the inverse. -/
def powInt (base : Float) (n : Int) : Float :=
  let power := powNat base 1.0 n.natAbs
  if n < 0 then 1.0 / power else power

/-- Rounds to a number of decimal places; a half goes to the even neighbour. Integers are kept
unless places before the point are dropped. -/
def round (v : Value) (digits : Float) : Except Reason Value := do
  let items ← numeric v "mathematical function"
  -- Logicals stay logicals here.
  if integerLike items && decide (digits ≥ 0.0) then return v
  let scale := powInt 10.0 (Double.clampTo (-2147483648) 2147483647 digits)
  mapDouble (fun d => Double.roundEven (d * scale) / scale) v

/-! ## Comparison -/

inductive CompareOp where
  | eq
  | ne
  | lt
  | le
  | gt
  | ge
deriving DecidableEq, Repr

def CompareOp.ofName? : String → Option CompareOp
  | "==" => some .eq
  | "!=" => some .ne
  | "<" => some .lt
  | "<=" => some .le
  | ">" => some .gt
  | ">=" => some .ge
  | _ => none

/-- Does the operator hold for this order of its operands? -/
def CompareOp.holds : CompareOp → Ordering → Bool
  | .eq, o => o = .eq
  | .ne, o => o ≠ .eq
  | .lt, o => o = .lt
  | .le, o => o ≠ .gt
  | .gt, o => o = .gt
  | .ge, o => o ≠ .lt

/-- The order of two texts by their characters. -/
def textOrder (x y : String) : Ordering :=
  if x < y then .lt else if x = y then .eq else .gt

/-- The order of two doubles; none with what is no number. -/
def doubleOrder (x y : Float) : Option Ordering :=
  if x < y then some .lt
  else if x == y then some .eq
  else if y < x then some .gt
  else none

/-- The order of two literals, as texts or as doubles. -/
def literalOrder (textual : Bool) (x y : Literal) : Option Ordering :=
  if textual then do return textOrder (← text x) (← text y)
  else do doubleOrder (← x.toDouble?) (← y.toDouble?)

/-- Compares two values; a string on either side makes all comparisons textual. -/
def compare (op : CompareOp) (l r : Value) : Except Reason Value := do
  let a ← l.literals
  let b ← r.literals
  let textual := (a ++ b).any isString
  return .atomic ((recycle a b).map fun (x, y) =>
    .logical ((literalOrder textual x y).map op.holds))

/-! ## Logic with missing values -/

/-- Conjunction: false decides. -/
def and3 : Option Bool → Option Bool → Option Bool
  | some false, _ => some false
  | _, some false => some false
  | some true, some true => some true
  | _, _ => none

/-- Disjunction: true decides. -/
def or3 : Option Bool → Option Bool → Option Bool
  | some true, _ => some true
  | _, some true => some true
  | some false, some false => some false
  | _, _ => none

/-- A logical operation element by element. -/
def logic (op : Option Bool → Option Bool → Option Bool) (l r : Value) : Except Reason Value := do
  let a ← l.literals
  let b ← r.literals
  return .atomic (← (recycle a b).mapM fun (x, y) => do
    return .logical (op (← truth x) (← truth y)))

/-- A logical operation on first elements. -/
def scalarLogic (op : Option Bool → Option Bool → Option Bool) (l r : Value) :
    Except Reason Value := do
  return .ofLiteral (.logical (op (← scalarTruth l) (← scalarTruth r)))

def negation (v : Value) : Except Reason Value := do
  return .atomic (← (← v.literals).mapM fun l => do return .logical ((← truth l).map (!·)))

end SqlVerbs.Local
