import SqlVerbs.Local.Value

/-!
# Views of literals

Literals as integers, truth values and texts, and the scalar arguments of functions.
-/

namespace SqlVerbs.Local

/-- The literal as an integer; logicals count as 0 and 1. -/
def toInt? : Literal → Option Int64
  | .integer value => value
  | .logical value => value.map (fun b => if b then 1 else 0)
  | _ => none

/-- Integers, logicals and `NULL`, on which arithmetic stays with integers. -/
def isIntegerLike : Literal → Bool
  | .integer _ | .logical _ | .null => true
  | _ => false

/-- Are all elements integers, logicals or `NULL`? -/
def integerLike (items : List Literal) : Bool := items.all isIntegerLike

def isString : Literal → Bool
  | .string _ => true
  | _ => false

/-- The elements of a value without strings. -/
def numeric (v : Value) (what : String) : Except Reason (List Literal) := do
  let items ← v.literals
  if items.any isString then throw (.nonNumeric what) else return items

/-- The truth value of a literal, which may be missing. -/
def truth : Literal → Except Reason (Option Bool)
  | .logical b => .ok b
  | .integer i => .ok (i.map (fun i => i ≠ 0))
  | .double (some d) => .ok (if d.isNaN then none else some (d != 0.0))
  | .double none => .ok none
  | .null => .ok none
  | .string _ => .error .nonLogical

/-- The truth value of the first element. -/
def scalarTruth (v : Value) : Except Reason (Option Bool) := do
  match ← v.literals with
  | l :: _ => truth l
  | [] => throw .lengthZero

/-- The largest size of a whole number that is written without its exact digits. -/
def wholeLimit : Float := 1e15

/-- The text of a double: whole numbers up to `wholeLimit` as integers, so without the sign of
zero. -/
def doubleText (d : Float) : Option String :=
  match Double.shape d with
  | .nan => none
  | .infinite negative => some (if negative then "-Inf" else "Inf")
  | .finite p => some (if p.isWhole && !p.isLarge then toString p.trunc else Double.toText d)

/-- The text of a literal; missing values have none. -/
def text : Literal → Option String
  | .integer (some i) => some (toString i.toInt)
  | .double (some d) => doubleText d
  | .logical (some b) => some (if b then "TRUE" else "FALSE")
  | .string (some s) => some s
  | _ => none

def scalarDouble (v : Value) (what : String) : Except Reason Float := do
  match (← v.literals).head?.bind Literal.toDouble? with
  | some d => return d
  | none => throw (.badArgument what)

def scalarText (v : Value) (what : String) : Except Reason String := do
  match (← v.literals).head?.bind text with
  | some s => return s
  | none => throw (.badArgument what)

/-- The literal as a literal of a kind; what the kind cannot hold is missing. -/
def coerce (kind : Kind) (l : Literal) : Literal :=
  match kind with
  | .string => .string (text l)
  | .double => .double l.toDouble?
  | .integer => .integer (toInt? l)
  | .logical =>
    match l with
    | .logical b => .logical b
    | _ => .logical none
  | .null => .null

@[simp] theorem kind_coerce (kind : Kind) (l : Literal) : (coerce kind l).kind = kind := by
  cases kind <;> cases l <;> rfl

/-- The element at a position, counted around the end. -/
def cyclic {α : Type} (items : Array α) (i : Nat) : Option α := items[i % items.size]?

/-- Pairs up the elements of two lists and repeats the shorter one. Nothing pairs with an empty
list. -/
def recycle {α β : Type} (a : List α) (b : List β) : List (α × β) :=
  let left := a.toArray
  let right := b.toArray
  let n := if a.isEmpty || b.isEmpty then 0 else max left.size right.size
  (List.range n).filterMap (fun i => do return (← cyclic left i, ← cyclic right i))

end SqlVerbs.Local
