import SqlVerbs.Error
import SqlVerbs.Host.Deparse
import SqlVerbs.Local.Functions

/-!
# Evaluation on this side

An expression that mentions local bindings only has a local value. Failures are reported on the
innermost expression that has no value although its operands have one.
-/

namespace SqlVerbs.Local

open Calendar (DateTime)
open Host (Expr)

/-- What the names of an expression may stand for. -/
structure Scope where
  /-- The columns of the query. -/
  columns : List String
  env : Environment
  /-- The clock reading of this evaluation. -/
  now : DateTime

namespace Scope

def isColumn (scope : Scope) (name : String) : Bool := scope.columns.contains name

/-- The local value of a name. Bindings are seen even behind a column of the same name. -/
def lookup (scope : Scope) (name : String) : Except Reason Value :=
  match scope.env.get? name with
  | some value => .ok value
  | none => .error (if scope.isColumn name then .remoteColumn name else .notFound name)

/-- The binding of a name, whatever the columns are. -/
def binding (scope : Scope) (name : String) : Except Reason Value :=
  match scope.env.get? name with
  | some value => .ok value
  | none => .error (.notFound name)

end Scope

/-- Reports a reason as the failure of an expression. -/
def blame {α : Type} (e : Expr) : Except Reason α → Except Error α
  | .ok a => .ok a
  | .error reason => .error (.localFailure e.deparse reason)

/-! ## Forms that are read off their arguments -/

/-- The words that say on which side a name is looked up. -/
inductive Pronoun where
  | data
  | env
deriving DecidableEq, Repr

def Pronoun.ofName? : String → Option Pronoun
  | ".data" => some .data
  | ".env" => some .env
  | _ => none

/-- How a call gets its local value. -/
inductive Access where
  /-- A name chosen on one side. -/
  | pronoun (p : Pronoun) (member : Expr)
  /-- A member of a list; the key is spelled out. -/
  | member (key : Option String)
  | element
  | subset
  /-- A name behind its namespace. -/
  | qualified (name : String)
  /-- A function of the local table. -/
  | function

/-- The name that an expression spells. -/
def spelledName? : Expr → Option String
  | .symbol name => some name
  | .literal (.string (some name)) => some name
  | _ => none

/-- The pronoun that an expression is. -/
def pronoun? : Expr → Option Pronoun
  | .symbol name => Pronoun.ofName? name
  | _ => none

/-- How a call with two arguments gets its local value. -/
def Access.ofPair (name : String) (target index : Expr) : Access :=
  match name, pronoun? target with
  | "$", some p => .pronoun p index
  | "$", none => .member (spelledName? index)
  | "[[", some p => .pronoun p index
  | "[[", none => .element
  | "[", _ => .subset
  | "::", _ | ":::", _ =>
    match index with
    | .symbol inner => .qualified inner
    | _ => .function
  | _, _ => .function

/-- How a call gets its local value. -/
def Access.ofCall (name : String) : List Expr → Access
  | [target, index] => .ofPair name target index
  | _ => .function

/-- The only string of a value. -/
def singleText? : Value → Option String
  | .atomic [.string (some text)] => some text
  | _ => none

/-- The name that is chosen with a pronoun: spelled out, or computed. -/
def pronounMember (e member : Expr) (computed : Except Error Value) : Except Error String :=
  match spelledName? member with
  | some name => .ok name
  | none => do
    match singleText? (← computed) with
    | some name => .ok name
    | none => blame e (.error .subscriptNotString)

/-! ## Evaluation -/

/-- The values of several results, or the first failure. -/
def allValues {α : Type} : List (Except Error α) → Except Error (List α)
  | [] => .ok []
  | first :: rest => do return (← first) :: (← allValues rest)

/-- The values of several named results, or the first failure. -/
def allNamedValues {α : Type} : List (String × Except Error α) → Except Error (List (String × α))
  | [] => .ok []
  | (key, first) :: rest => do return (key, ← first) :: (← allNamedValues rest)

/-- The value of a call, from the values of its arguments. -/
def evalCall (scope : Scope) (name : String) (args : List Expr) (named : List (String × Expr))
    (values : List (Except Error Value)) (namedValues : List (String × Except Error Value)) :
    Except Error Value :=
  let e := Expr.call name args named
  match Access.ofCall name args, values with
  -- A pronoun has no value of its own, and the member is evaluated only if it spells no name.
  | .pronoun p member, [_, computed] => do
    let chosen ← pronounMember e member computed
    match p with
    | .data => blame e (.error .remoteColumnInComputation)
    | .env => blame e (scope.binding chosen)
  -- The target fails before the key does.
  | .member key, [target, _] => do
    let target ← target
    match key with
    | some key => blame e (memberOf target key)
    | none => blame e (.error .subscriptType)
  | .element, [target, index] => do blame e (elementOf (← target) (← index))
  | .subset, [target, index] => do blame e (subset (← target) (← index))
  -- Nothing is known of namespaces: only the name behind counts.
  | .qualified name, _ => blame e (scope.lookup name)
  | _, _ => do
    let values ← allValues values
    blame e (callLocal scope.now name values (← allNamedValues namedValues))

mutual

/-- The local value of an expression. -/
def eval (scope : Scope) : Expr → Except Error Value
  | .literal value => .ok (.ofLiteral value)
  | .vector items => .ok (.atomic items)
  | .symbol name => blame (.symbol name) (scope.lookup name)
  | .call name args named =>
    evalCall scope name args named (evalEach scope args) (evalEachNamed scope named)

def evalEach (scope : Scope) : List Expr → List (Except Error Value)
  | [] => []
  | e :: rest => eval scope e :: evalEach scope rest

def evalEachNamed (scope : Scope) : List (String × Expr) → List (String × Except Error Value)
  | [] => []
  | (key, e) :: rest => (key, eval scope e) :: evalEachNamed scope rest

end

end SqlVerbs.Local
