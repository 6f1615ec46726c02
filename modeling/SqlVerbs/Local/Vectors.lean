import SqlVerbs.Local.Arithmetic

/-!
# Vectors and lists

Combining, subsetting, sequences, choices and sums.
-/

namespace SqlVerbs.Local

/-! ## Combining and choosing -/

def isNull : Literal → Bool
  | .null => true
  | _ => false

/-- All elements in one vector of their highest kind, without `NULL`. -/
def combine (values : List Value) : Except Reason Value := do
  let items := ((← values.mapM Value.literals).flatten).filter (fun l => !isNull l)
  if items.isEmpty then return .null
  return .atomic (items.map (coerce (kindOf items)))

/-- Chooses for every element of `test` between the elements of `yes` and `no` at its position. -/
def ifElse (test yes no : Value) : Except Reason Value := do
  let test ← test.literals
  let yes ← yes.literals
  let no ← no.literals
  -- Empty branches are errors even if nothing is chosen.
  if yes.isEmpty || no.isEmpty then throw .emptyBranches
  let kind := (kindOf yes).join (kindOf no)
  let pick (items : Array Literal) (i : Nat) : Literal :=
    coerce kind ((cyclic items i).getD (.missing kind))
  let onYes := yes.toArray
  let onNo := no.toArray
  return .atomic (← test.zipIdx.mapM fun (t, i) => do
    match ← truth t with
    | some true => return pick onYes i
    | some false => return pick onNo i
    | none => return .missing kind)

/-- One of two values by a single condition; without the second it is `NULL`. -/
def choose (cond yes : Value) (no : Option Value) : Except Reason Value := do
  match ← scalarTruth cond with
  | some true => return yes
  | some false => return no.getD .null
  | none => throw .missingCondition

/-! ## Subsetting -/

/-- The member of a list with a name; `NULL` if there is none. -/
def memberOf (target : Value) (key : String) : Except Reason Value :=
  match target with
  | .list entries => .ok ((Bindings.get? entries key).getD .null)
  | _ => .error .memberOfAtomic

/-- The position that a subscript gives in a vector of some length, from 0. -/
def indexPosition (index : Value) (length : Nat) : Except Reason Nat :=
  match index with
  | .atomic [l] =>
    match l.toDouble? with
    | some i =>
      if !Double.isFinite i then .error .subscriptNotFinite
      else if i < 1.0 ∨ length < Double.toUnsigned i then .error .subscriptOutOfBounds
      else .ok (Double.toUnsigned i - 1)
    | none => .error .subscriptNotNumber
  | _ => .error .subscriptNotNumber

/-- The element of a list under a name, or an error. -/
def namedElement (target : Value) (key : String) : Except Reason Value :=
  match target with
  | .list entries =>
    match Bindings.get? entries key with
    | some v => .ok v
    | none => .error .subscriptOutOfBounds
  | _ => .error .subscriptOutOfBounds

/-- The single element that a subscript selects, by name or by position. -/
def elementOf (target index : Value) : Except Reason Value :=
  match index with
  | .atomic [.string (some key)] => namedElement target key
  | _ =>
    match target with
    | .atomic items => do
      match items[← indexPosition index items.length]? with
      | some l => return .ofLiteral l
      | none => throw .subscriptOutOfBounds
    | .list entries => do
      match entries[← indexPosition index entries.length]? with
      | some (_, v) => return v
      | none => throw .subscriptOutOfBounds
    | _ => .error .notSubsettable

/-- The element at a subscript; beyond the end it is missing. -/
def subsetItem (items : List Literal) (index : Literal) : Except Reason Literal :=
  match index with
  | .logical _ => .error .logicalSubscript
  | _ =>
    match index.toDouble? with
    | some i =>
      if i ≥ 1.0 then
        .ok (items[Double.toUnsigned i - 1]?.getD (.missing (kindOf items)))
      else .error .subscriptNotPositive
    | none => .error .subscriptType

/-- The elements at positive subscripts. -/
def subset (target index : Value) : Except Reason Value := do
  let items ← target.literals
  return .atomic (← (← index.literals).mapM (subsetItem items))

/-! ## Sequences -/

/-- The longest sequence that is made locally. -/
def maxSequence : Nat := 10000000

/-- The whole number of a double below `wholeLimit`. -/
def smallWhole? (d : Float) : Option Int :=
  match Double.shape d with
  | .finite p => if p.isWhole && !p.isLarge then some p.trunc else none
  | _ => none

/-- How many steps of size one fit between two numbers. -/
def stepCount (first last : Float) : Nat :=
  match smallWhole? first, smallWhole? last with
  | some a, some b => (b - a).natAbs
  | _, _ => Double.toUnsigned (Double.floor (Double.abs (last - first)))

/-- Steps of size one from a number toward another. From a whole number they are integers. -/
def sequenceItems (first : Float) (upward : Bool) (count : Nat) : List Literal :=
  match smallWhole? first with
  | some a =>
    (List.range count).map fun (i : Nat) =>
      .integer (some (Int64.ofInt (if upward then a + i else a - i)))
  | none =>
    (List.range count).map fun (i : Nat) =>
      .double (some (first + (if upward then 1.0 else -1.0) * Float.ofNat i))

/-- The numbers from one to another in steps of one. -/
def sequence (first last : Value) : Except Reason Value := do
  let a ← scalarDouble first "from"
  let b ← scalarDouble last "to"
  if !Double.isFinite a || !Double.isFinite b then throw .notANumber
  let count := stepCount a b + 1
  if maxSequence < count then throw .sequenceTooLong
  return .atomic (sequenceItems a (decide (b ≥ a)) count)

/-- The numbers from one up to a length. -/
def sequenceOfLength (length : Value) : Except Reason Value := do
  let n ← scalarDouble length "length.out"
  if n < 0.0 then throw .negativeLength
  -- Zero alone is empty: the sequence from 1 to a lesser number goes downward.
  if n == 0.0 then return .atomic []
  sequence (.atomic [.integer (some 1)]) (.atomic [.double (some n)])

/-! ## Sums and extremes -/

/-- Functions that make one number of many. -/
inductive AggregateOp where
  | sum
  | mean
  | min
  | max
deriving DecidableEq, Repr

namespace AggregateOp

def ofName? : String → Option AggregateOp
  | "sum" => some .sum
  | "mean" => some .mean
  | "min" => some .min
  | "max" => some .max
  | _ => none

def name : AggregateOp → String
  | .sum => "sum"
  | .mean => "mean"
  | .min => "min"
  | .max => "max"

end AggregateOp

/-- The sum from the left; every partial sum has to fit in 64 bits. -/
def integerSum (items : List Int64) : Option Int64 :=
  items.foldlM (fun acc i => fit (acc.toInt + i.toInt)) 0

/-- The least or the greatest integer. -/
def integerExtreme (better : Int64 → Int64 → Bool) : List Int64 → Option Int64
  | [] => none
  | first :: rest => some (rest.foldl (fun acc i => if better i acc then i else acc) first)

/-- The sum from the left. -/
def doubleSum (items : List Float) : Float := items.foldl (· + ·) (-0.0)

/-- The least or the greatest double from a start value; of equal ones, such as the two zeros, the
last. -/
def doubleExtreme (better : Float → Float → Bool) (start : Float) (items : List Float) : Float :=
  items.foldl (fun acc d => if better d acc || d == acc then d else acc) start

/-- The result for elements without missing values. -/
def aggregateItems (op : AggregateOp) (onIntegers : Bool) (items : List Literal) : Literal :=
  let ints := items.filterMap toInt?
  let doubles := items.filterMap Literal.toDouble?
  match op with
  | .sum => if onIntegers then .integer (integerSum ints) else .double (some (doubleSum doubles))
  | .mean =>
    if items.isEmpty then .double (some Double.nan)
    else .double (some (doubleSum doubles / Float.ofNat items.length))
  | .min =>
    if items.isEmpty then .double (some Double.infinity)
    else if onIntegers then .integer (integerExtreme (fun a b => a < b) ints)
    else .double (some (doubleExtreme (fun a b => a < b) Double.infinity doubles))
  | .max =>
    if items.isEmpty then .double (some (-Double.infinity))
    else if onIntegers then .integer (integerExtreme (fun a b => b < a) ints)
    else .double (some (doubleExtreme (fun a b => b < a) (-Double.infinity) doubles))

/-- A sum, mean or extreme over all arguments. A missing element makes the result missing, unless
`na.rm` is true. -/
def aggregate (op : AggregateOp) (args : List Value) (named : Bindings Value) :
    Except Reason Value := do
  let dropMissing ← match Bindings.get? named "na.rm" with
    | some v => do pure ((← scalarTruth v).getD false)
    | none => pure false
  let items := (← args.mapM fun v => numeric v (op.name ++ "()")).flatten
  let onIntegers := op ≠ .mean && integerLike items
  if items.any Literal.isMissing && !dropMissing then
    -- The kind is that of all elements, the missing ones included.
    return .ofLiteral (.missing (if onIntegers then .integer else .double))
  return .ofLiteral (aggregateItems op onIntegers (items.filter (fun l => !l.isMissing)))

/-! ## Tests -/

/-- Which elements are missing; lists and dates have none. -/
def isNa : Value → Value
  | .atomic items => .atomic (items.map fun l => .logical (some l.isMissing))
  | v => .atomic (List.replicate v.length (.logical (some false)))

def isNullValue : Value → Bool
  | .null => true
  | _ => false

end SqlVerbs.Local
