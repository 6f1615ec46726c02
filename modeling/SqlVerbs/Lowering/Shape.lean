import SqlVerbs.Lowering.Window

/-!
# The shapes of rules

How each kind of rule builds SQL from the arguments of a call.
-/

namespace SqlVerbs.Lowering

/-- A number with the other sign; literals are changed in place as far as they can be. -/
def negated : Sql.Expr → Sql.Expr
  | .literal (.integer (some i)) =>
    -- The least integer has no opposite in 64 bits.
    if i = Int64.minValue then .unary .neg (.literal (.integer (some i)))
    else .literal (.integer (some (-i)))
  | .literal (.double (some d)) => .literal (.double (some (-d)))
  | e => .unary .neg e

/-- Membership in a list; a single value counts as a list of one, and nothing is in an empty
list. -/
def membership (e : Sql.Expr) : Sql.Expr → Sql.Expr
  | .list [] => .literal (.logical (some false))
  | .list items => .elemOf e (.list items)
  | .identifier qualifier name => .elemOf e (.identifier qualifier name)
  | .raw text => .elemOf e (.raw text)
  | single => .elemOf e (.list [single])

/-- Is the expression a double literal, missing or not? -/
def isDoubleLiteral : Host.Expr → Bool
  | .literal (.double _) => true
  | _ => false

/-- The remainder of a division, by function where an operand is a double and the dialect has
one. -/
def modulo (cx : Context) (call : Call) : Noted Sql.Expr := do
  let dividend ← call.operand 0
  let divisor ← call.operand 1
  let left ← dividend.result
  let right ← divisor.result
  match cx.dialect.moduloFunction with
  | some fn =>
    if isDoubleLiteral dividend.source || isDoubleLiteral divisor.source then
      return .call fn [left, right]
    else return .binary left .mod right
  | none => return .binary left .mod right

/-- The logarithm of `x` to a base. -/
def logarithm (style : LogStyle) (x base : Sql.Expr) : Sql.Expr :=
  match style with
  | .baseFirst => .call "LOG" [base, x]
  | .baseLast => .call "LOG" [x, base]
  | .quotient => .binary (.call "LN" [x]) .div (.call "LN" [base])

/-- The number of characters between two positions, both included. -/
def sliceLength (start stop : Float) : Int64 :=
  let length := stop - start + 1.0
  if length > 0.0 then Double.toInt64 length else 0

/-- A slice of a string. The length is computed here if both ends are literals. -/
def slice (call : Call) (fn : String) : Noted Sql.Expr := do
  let text ← call.arg 0
  let start ← call.arg 1
  -- The end becomes SQL even if only its literal is used, for its errors and warnings.
  let stop ← call.arg 2
  let length ← match (← call.operand 1).source.literal?, (← call.operand 2).source.literal? with
    | some first, some last =>
      match first.toDouble?, last.toDouble? with
      | some first, some last => pure (.literal (.integer (some (sliceLength first last))))
      | _, _ => call.invalid 2 "must be a number"
    | _, _ => pure (.binary (.binary stop .sub start) .add (.literal (.integer (some 1))))
  return .call fn [text, wholeNumber start, length]

/-- Adds one part to a chain of concatenations. -/
def chainPart (separator : String) (chain part : Sql.Expr) : Sql.Expr :=
  if separator.isEmpty then .binary chain .concat part
  else .binary (.binary chain .concat (.literal (.string (some separator)))) .concat part

/-- Strings joined with a separator. -/
def joined (style : ConcatStyle) (separator : String) (parts : List Sql.Expr) : Sql.Expr :=
  match style, parts with
  | .concatWs, parts =>
    if separator.isEmpty then .call "CONCAT" parts
    else .call "CONCAT_WS" (.literal (.string (some separator)) :: parts)
  | .operator, [] => .literal (.string (some ""))
  | .operator, first :: rest => rest.foldl (chainPart separator) first

/-- The separator that a call asks for. -/
def Call.separator (call : Call) (standard : String) : Noted String :=
  match (call.keywords.get? "sep").map Operand.source with
  | some (.literal (.string (some text))) => pure text
  | some _ => call.invalid (call.slots.length + 1) "`sep` must be a string literal"
  | none => pure standard

/-! ## Case distinctions -/

/-- Does a condition always hold? -/
def isTrue : Host.Expr → Bool
  | .literal (.logical (some true)) => true
  | _ => false

/-- A branch of a case distinction. -/
structure Branch where
  /-- The condition always holds. -/
  always : Bool
  cond : Noted Sql.Expr
  value : Noted Sql.Expr

/-- The branch that an argument of the form `cond ~ value` is. -/
def Operand.branch? (operand : Operand) : Option Branch :=
  match operand.source, operand.sides with
  | .call name [cond, _] _, [lowered, value] =>
    if name = "~" then some ⟨isTrue cond, lowered, value⟩ else none
  | _, _ => none

/-- The branches up to the first one that always holds, which becomes the alternative. The
arguments are counted from `index`. -/
def branchesFrom (call : Call) (index : Nat) :
    List (Option Operand) → Noted (List (Sql.Expr × Sql.Expr) × Option Sql.Expr)
  | [] => pure ([], none)
  | slot :: later =>
    match slot.bind Operand.branch? with
    | none => call.invalid index "must be a two-sided formula"
    | some branch =>
      -- Later branches are not looked at, not even for errors.
      if branch.always then do return ([], some (← branch.value))
      else do
        let cond ← branch.cond
        let value ← branch.value
        let (rest, otherwise) ← branchesFrom call (index + 1) later
        return ((cond, value) :: rest, otherwise)

def caseWhen (call : Call) : Noted Sql.Expr := do
  let (branches, otherwise) ← branchesFrom call 1 call.slots
  -- The default is made into SQL also where a branch always holds.
  let default ← Noted.optional ((call.keywords.get? ".default").map Operand.result)
  if branches.isEmpty then call.invalid 1 "needs at least one condition"
  else return .caseWhen branches (default.or otherwise)

/-! ## All kinds -/

/-- What a call becomes under a rule. -/
def applyRule (cx : Context) (ordering : Noted (List Sql.Expr)) (call : Call) :
    RuleKind → Noted Sql.Expr
  | .infixOp op => do
    let left ← call.arg 0
    return .binary left op (← call.arg 1)
  | .not => do return .unary .not (← call.arg 0)
  | .negate => do return negated (← call.arg 0)
  | .identity => call.arg 0
  | .scalar fn => do return .call fn (← call.args)
  | .aggregate fn => do aggregate cx ordering (.call fn [← call.arg 0])
  | .countAll => aggregate cx ordering (.call "COUNT" [.star])
  | .countDistinct => do aggregate cx ordering (.function "COUNT" [← call.arg 0] true)
  | .median => do
    aggregate cx ordering
      (.withinGroup (.call "PERCENTILE_CONT" [.literal (.double (some 0.5))]) [← call.arg 0])
  | .cumulative fn => do running cx ordering call (.call fn [← call.arg 0])
  | .cumulativeProduct => do
    let logs := Sql.Expr.call "SUM" [.call "LN" [← call.arg 0]]
    return .call "EXP" [← running cx ordering call logs]
  | .ranking fn => ranking cx ordering call (.call fn [])
  | .ntile => buckets cx ordering call
  | .offset fn => offset cx ordering call fn
  | .positional fn => positional cx ordering call fn
  | .cast type => do return .cast (← call.arg 0) (cx.dialect.castType type)
  | .conditional => do
    let cond ← call.arg 0
    let value ← call.arg 1
    return .caseWhen [(cond, value)] (← call.arg? 2)
  | .caseWhen => caseWhen call
  | .between => do
    let e ← call.arg 0
    let low ← call.arg 1
    return .between e low (← call.arg 2)
  | .elemOf => do
    let e ← call.arg 0
    return membership e (← call.arg 1)
  | .isNull => do return .isNull (← call.arg 0)
  | .modulo => modulo cx call
  | .integerDivide => do
    let left ← call.arg 0
    return .call "FLOOR" [.binary left .div (← call.arg 1)]
  | .power => do
    let base ← call.arg 0
    return .call "POWER" [base, ← call.arg 1]
  | .logBase style => do
    let x ← call.arg 0
    return logarithm style x (← call.arg 1)
  | .regex token => do
    let pattern ← call.arg 0
    -- The host function has the pattern first, the operator has it last.
    return .binary (← call.arg 1) (.custom token) pattern
  | .combine => do return .list (← call.args)
  | .desc => do return .desc (← call.arg 0)
  | .raw => do
    match (← call.operand 0).source with
    | .literal (.string (some text)) => return .raw text
    | _ => call.invalid 1 "must be a string literal"
  | .substr fn => slice call fn
  | .round => do
    let x ← call.arg 0
    return .call "ROUND" (x :: ((← call.arg? 1).map wholeNumber).toList)
  | .paste separator style => do
    let separator ← call.separator separator
    return joined style separator (← call.args)
  | .unsupported feature => Noted.fail (cx.dialect.unsupported feature)

end SqlVerbs.Lowering
