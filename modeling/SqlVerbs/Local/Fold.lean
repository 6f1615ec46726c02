import SqlVerbs.Local.Eval

/-!
# Folding local parts

Before an expression goes to the backend, every part of it that depends on a local binding and on
nothing remote is replaced by its value. A call over constants alone is kept as written; it has a
value all the same, so that a call around it can be folded.
-/

namespace SqlVerbs.Local

open Host (Expr)

/-- Forms that never reach the backend. -/
def alwaysLocal : List String :=
  ["$", "[[", "[", "::", ":::", ":", "Sys.Date", "Sys.time"]

/-- Functions that mean something on the remote side only, also over local values. -/
def alwaysRemote : List String :=
  ["sql", "desc", "n", "n_distinct", "case_when", "~", "row_number", "min_rank", "rank",
    "dense_rank", "percent_rank", "cume_dist", "ntile", "lead", "lag", "first", "last", "nth",
    "cumsum", "cummean", "cummin", "cummax", "cumprod", "cumall", "cumany"]

/-- A folded expression. -/
structure Folded where
  expr : Expr
  /-- The local value, if there is one. -/
  value : Option Value
  /-- A local binding was used. -/
  touched : Bool

namespace Folded

/-- An expression without a local value. -/
def remote (e : Expr) (touched : Bool) : Folded := ⟨e, none, touched⟩

/-- An expression that stands for a local value from now on. -/
def bound (e : Expr) (value : Value) : Folded := ⟨e, some value, true⟩

/-- A constant expression, kept as written. -/
def constant (e : Expr) (value : Value) : Folded := ⟨e, some value, false⟩

/-- What is left for the backend. -/
def residual (f : Folded) : Except Error Expr :=
  match f.value, f.touched with
  | some value, true => blame f.expr value.toExpr
  | _, _ => .ok f.expr

end Folded

def residuals : List Folded → Except Error (List Expr)
  | [] => .ok []
  | f :: rest => do return (← f.residual) :: (← residuals rest)

def namedResiduals : List (String × Folded) → Except Error (List (String × Expr))
  | [] => .ok []
  | (key, f) :: rest => do return (key, ← f.residual) :: (← namedResiduals rest)

/-- The values of folded expressions, if all have one. -/
def valuesOf? : List Folded → Option (List Value)
  | [] => some []
  | f :: rest => do return (← f.value) :: (← valuesOf? rest)

/-- The values of folded named arguments, if all have one. -/
def namedValuesOf? : List (String × Folded) → Option (List (String × Value))
  | [] => some []
  | (key, f) :: rest => do return (key, ← f.value) :: (← namedValuesOf? rest)

/-- Calls the function if every argument has a value and the function may run here. -/
def callFolded? (scope : Scope) (name : String) (args : List Folded)
    (named : List (String × Folded)) : Option (Except Reason Value) :=
  if alwaysRemote.contains name then none
  else do
    let values ← valuesOf? args
    return callLocal scope.now name values (← namedValuesOf? named)

/-- Puts a call together again around its folded arguments. -/
def rebuild (name : String) (args : List Folded) (named : List (String × Folded))
    (touched : Bool) : Except Error Folded := do
  let args ← residuals args
  return .remote (.call name args (← namedResiduals named)) touched

/-- Folds a call whose arguments are folded. -/
def foldCall (scope : Scope) (e : Expr) (name : String) (args : List Folded)
    (named : List (String × Folded)) : Except Error Folded :=
  let touched := args.any Folded.touched || named.any (fun entry => entry.2.touched)
  match callFolded? scope name args named, touched with
  | some result, true => do return .bound e (← blame e result)
  | some (.ok value), false => .ok (.constant e value)
  -- A call over constants that fails here is left to the backend.
  | _, _ => rebuild name args named touched

/-- Folds a form that never reaches the backend. A column chosen by pronoun is the one that does. -/
def foldLocal (scope : Scope) (name : String) (args : List Expr) (named : List (String × Expr)) :
    Except Error Folded :=
  let e := Expr.call name args named
  match Access.ofCall name args with
  | .pronoun .data member => do
    return .remote (.symbol (← pronounMember e member (eval scope member))) false
  | _ => do return .bound e (← eval scope e)

/-- Folds a symbol. Columns hide local bindings, and a name that nobody knows is taken for a
column. -/
def foldSymbol (scope : Scope) (name : String) : Folded :=
  if scope.isColumn name then .remote (.symbol name) false
  else
    match scope.env.get? name with
    | some value => .bound (.symbol name) value
    | none => .remote (.symbol name) false

mutual

/-- Folds an expression. -/
def fold (scope : Scope) : Expr → Except Error Folded
  | .literal value => .ok (.constant (.literal value) (.ofLiteral value))
  | .vector items => .ok (.constant (.vector items) (.atomic items))
  | .symbol name => .ok (foldSymbol scope name)
  | .call name args named =>
    if alwaysLocal.contains name then foldLocal scope name args named
    else do
      let foldedArgs ← foldAll scope args
      foldCall scope (.call name args named) name foldedArgs (← foldNamed scope named)

def foldAll (scope : Scope) : List Expr → Except Error (List Folded)
  | [] => .ok []
  | e :: rest => do return (← fold scope e) :: (← foldAll scope rest)

def foldNamed (scope : Scope) : List (String × Expr) → Except Error (List (String × Folded))
  | [] => .ok []
  | (key, e) :: rest => do return (key, ← fold scope e) :: (← foldNamed scope rest)

end

/-- Replaces every locally computable part of an expression by its value. -/
def partialEval (scope : Scope) (e : Expr) : Except Error Expr := do (← fold scope e).residual

end SqlVerbs.Local
