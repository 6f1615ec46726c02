import SqlVerbs.Lowering.Call

/-!
# Aggregates and windows

A window function has an `OVER` clause. An aggregate has one only where the context asks for it,
and it is ordered only if there is a frame.
-/

namespace SqlVerbs.Lowering

def Context.partition (cx : Context) : List Sql.Expr := cx.groups.map Sql.Expr.column

/-- The error of a dialect without windows. -/
def Context.noWindows {α : Type} (cx : Context) : Noted α :=
  Noted.fail (cx.dialect.unsupported "window functions")

/-- An aggregate, plain or over the window of its group. -/
def aggregate (cx : Context) (ordering : Noted (List Sql.Expr)) (fn : Sql.Expr) :
    Noted Sql.Expr :=
  if !cx.windowed then pure fn
  else if !cx.dialect.supportsWindows then cx.noWindows
  else
    match cx.frame with
    | some frame => do return .window fn cx.partition (← ordering) (some frame)
    -- Over a whole partition the order does not matter, so it is not even made into SQL.
    | none => pure (.window fn cx.partition [] none)

/-- A window function. Nothing to order by is worth a warning. -/
def overWindow (cx : Context) (source : Host.Expr) (fn : Sql.Expr) (order : List Sql.Expr)
    (frame : Option Sql.Frame) : Noted Sql.Expr :=
  if !cx.dialect.supportsWindows then cx.noWindows
  else do
    Noted.warn (if order.isEmpty then [.missingWindowOrder source.deparse] else [])
    return .window fn cx.partition order frame

/-- The order that a call states itself, or else that of the context. -/
def orderOr (ordering : Noted (List Sql.Expr)) : Option Sql.Expr → Noted (List Sql.Expr)
  | some term => pure [term]
  | none => ordering

/-- The order that is given by name, or else that of the context. -/
def Call.keywordOrder (call : Call) (ordering : Noted (List Sql.Expr)) :
    Noted (List Sql.Expr) :=
  match call.keywords.get? "order_by" with
  | some operand => do return [← operand.result]
  | none => ordering

/-- A running aggregate, which has a frame of its own unless there is one. -/
def running (cx : Context) (ordering : Noted (List Sql.Expr)) (call : Call) (fn : Sql.Expr) :
    Noted Sql.Expr := do
  overWindow cx call.source fn (← ordering) (some (cx.frame.getD .cumulative))

/-- A rank by the argument, or else by the order of the context. -/
def ranking (cx : Context) (ordering : Noted (List Sql.Expr)) (call : Call) (fn : Sql.Expr) :
    Noted Sql.Expr := do
  overWindow cx call.source fn (← orderOr ordering (← call.arg? 0)) none

/-- The number of buckets that a literal gives: rounded, and at least one. -/
def bucketCount? (count : Literal) : Option Int64 := do
  let rounded := Double.roundAway (← count.toDouble?)
  if Double.isFinite rounded && rounded >= 1.0 then some (Double.toInt64 rounded) else none

/-- Buckets of equal size. -/
def buckets (cx : Context) (ordering : Noted (List Sql.Expr)) (call : Call) :
    Noted Sql.Expr := do
  match (← call.operand 1).source with
  | .literal count =>
    match bucketCount? count with
    | some n => ranking cx ordering call (.call "NTILE" [.literal (.integer (some n))])
    | none => call.invalid 2 "must be a positive number"
  | _ => call.invalid 2 "must be a literal number"

/-- A double literal without fractional part becomes an integer. -/
def wholeNumber : Sql.Expr → Sql.Expr
  | .literal (.double (some d)) =>
    if Double.isWhole d && Double.abs d < 1e15 then .literal (.integer (some (Double.toInt64 d)))
    else .literal (.double (some d))
  | e => e

/-- The value of another row: how far away it is, and what to take if there is none. -/
def offset (cx : Context) (ordering : Noted (List Sql.Expr)) (call : Call) (fn : String) :
    Noted Sql.Expr := do
  let value ← call.arg 0
  -- The default comes before the distance, which may be left out only without it.
  let default ← call.arg? 2
  let distance := match ← call.arg? 1, default with
    | some n, _ => [wholeNumber n]
    | none, some _ => [.literal (.integer (some 1))]
    | none, none => []
  overWindow cx call.source (.call fn (value :: (distance ++ default.toList)))
    (← call.keywordOrder ordering) none

/-- The value of a row of the frame. Only the first row is the same in every frame. -/
def positional (cx : Context) (ordering : Noted (List Sql.Expr)) (call : Call) (fn : String) :
    Noted Sql.Expr := do
  let value ← call.arg 0
  let position := (← call.arg? 1).map wholeNumber
  let frame := if fn = "FIRST_VALUE" then cx.frame else some (cx.frame.getD .full)
  overWindow cx call.source (.call fn (value :: position.toList))
    (← call.keywordOrder ordering) frame

end SqlVerbs.Lowering
