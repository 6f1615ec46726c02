import SqlVerbs.Local.Fold
import SqlVerbs.Lowering.Shape
import SqlVerbs.Sql.Printer

/-!
# Host expressions as SQL

A host expression becomes a SQL expression by the rules of a dialect. Functions without a rule are
passed through under their own name. The ordering terms of a context become SQL in the same
context, except that they have no ordering to consult.
-/

namespace SqlVerbs.Lowering

def isNameStart (c : Char) : Bool := c.isAlpha || c = '_'

/-- The characters of a name, of which the first is no digit. -/
def isName : List Char → Bool
  | [] => false
  | c :: rest => isNameStart c && rest.all (fun c => isNameStart c || c.isDigit)

/-- Names that may be passed through: one name, or two with a dot between them. -/
def isFunctionName (name : String) : Bool :=
  let chars := name.toList
  let first := chars.takeWhile (· ≠ '.')
  match chars.dropWhile (· ≠ '.') with
  | [] => isName first
  -- A second dot is no character of a name.
  | _ :: second => isName first && isName second

/-- A function without a rule, as it is written. Named arguments follow the others. -/
def passThrough (cx : Context) (name : String) (args : List Operand)
    (named : List (String × Operand)) : Noted Sql.Expr :=
  if cx.strict then Noted.fail (.unknownFunction name)
  else if !isFunctionName name then Noted.fail (.invalidFunctionName name)
  else do
    return .call name (← Noted.all ((args ++ Bindings.values named).map Operand.result))

def lowerCall (cx : Context) (ordering : Noted (List Sql.Expr)) (source : Host.Expr)
    (name : String) (args : List Operand) (named : List (String × Operand)) : Noted Sql.Expr :=
  match cx.dialect.rulesFor name with
  | none => passThrough cx name args named
  | some rules =>
    match resolveRule args named rules with
    | some (rule, placement) => do
      Noted.warn (placement.ignored.map (Warning.namedArgumentIgnored name))
      applyRule cx ordering ⟨name, source, placement.slots, placement.keywords⟩ rule.kind
    | none =>
      Noted.fail (.arityMismatch name (rules.map Rule.arity) (countedArguments args named rules))

mutual

/-- An expression with what it becomes. -/
def lowerOperand (cx : Context) (ordering : Noted (List Sql.Expr)) : Host.Expr → Operand
  | .literal value => ⟨.literal value, pure (.literal value), []⟩
  | .vector items => ⟨.vector items, pure (.list (items.map Sql.Expr.literal)), []⟩
  | .symbol name => ⟨.symbol name, pure (.column name), []⟩
  | .call name args named =>
    let operands := lowerOperands cx ordering args
    ⟨.call name args named,
      lowerCall cx ordering (.call name args named) name operands
        (lowerNamedOperands cx ordering named),
      operands.map Operand.result⟩

def lowerOperands (cx : Context) (ordering : Noted (List Sql.Expr)) :
    List Host.Expr → List Operand
  | [] => []
  | e :: rest => lowerOperand cx ordering e :: lowerOperands cx ordering rest

def lowerNamedOperands (cx : Context) (ordering : Noted (List Sql.Expr)) :
    List (String × Host.Expr) → List (String × Operand)
  | [] => []
  | (key, e) :: rest => (key, lowerOperand cx ordering e) :: lowerNamedOperands cx ordering rest

end

/-- What an expression becomes if windows are ordered by `ordering`. -/
def lowerWith (cx : Context) (ordering : Noted (List Sql.Expr)) (e : Host.Expr) :
    Noted Sql.Expr :=
  (lowerOperand cx ordering e).result

/-- The ordering terms of a context as SQL. A term that consults the ordering has none. -/
def orderTerms (cx : Context) : Noted (List Sql.Expr) :=
  Noted.all (cx.order.map (lowerWith cx (Noted.fail .circularOrdering)))

def lower (cx : Context) (e : Host.Expr) : Noted Sql.Expr := lowerWith cx (orderTerms cx) e

/-- The SQL text of an expression: local parts are folded before it goes to the dialect. -/
def expressionText (cx : Context) (scope : Local.Scope) (e : Host.Expr) : Noted String := do
  let residual ← Noted.ofExcept (Local.partialEval scope e)
  return (← lower cx residual).render cx.dialect

end SqlVerbs.Lowering
