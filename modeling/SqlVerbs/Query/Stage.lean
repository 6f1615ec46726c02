import SqlVerbs.Lowering.Expr
import SqlVerbs.Query.Level

/-!
# Stages of compilation

A stage is the level that verbs are added to, together with what outlives it: groups, orderings
and the frame of windows. Compilation counts the subqueries it makes and collects warnings, each of
them once.
-/

namespace SqlVerbs

/-- What a query is compiled for. -/
structure Target where
  dialect : Dialect
  /-- Functions without a rule are errors. -/
  strict : Bool := false
  /-- The local bindings that expressions of all verbs see. -/
  env : Local.Environment := []
  /-- The clock reading of this compilation. -/
  now : Calendar.DateTime

/-- What compilation keeps track of. -/
structure Progress where
  subqueries : Nat := 0
  warnings : List Warning := []

/-- A step of compilation. -/
abbrev Compile := StateT Progress (Except Error)

/-- Adds the warnings that are not known yet. -/
def addNew (known raised : List Warning) : List Warning :=
  raised.foldl (fun acc warning => if acc.contains warning then acc else acc ++ [warning]) known

namespace Compile

variable {α : Type}

def fail (e : Error) : Compile α := fun _ => .error e

/-- A step that keeps track of nothing. -/
def ofExcept (x : Except Error α) : Compile α := fun progress => x.map (fun a => (a, progress))

/-- A step whose warnings are collected. -/
def ofNoted (x : Noted α) : Compile α := fun progress =>
  match x with
  | .ok (a, warnings) => .ok (a, { progress with warnings := addNew progress.warnings warnings })
  | .error e => .error e

/-- A word with a number of at least two digits. -/
def numbered (word : String) (n : Nat) : String :=
  word ++ (if n < 10 then "0" else "") ++ toString n

/-- A name for the next subquery. -/
def nextLabel : Compile String := fun progress =>
  let count := progress.subqueries + 1
  .ok (numbered "q" count, { progress with subqueries := count })

end Compile

/-- A level and what outlives it. -/
structure Stage where
  level : Level
  groups : List String := []
  /-- The order of rows. -/
  order : List Host.Expr := []
  /-- The order of windows, if it is not that of rows. -/
  windowOrder : List Host.Expr := []
  frame : Option Sql.Frame := none

namespace Stage

def ofTable (name : String) (columns : List String) : Stage where
  level := .ofSource (.table (.ofText name) none) columns

def windowTerms (stage : Stage) : List Host.Expr :=
  if stage.windowOrder.isEmpty then stage.order else stage.windowOrder

/-- Where the expressions of a verb stand. -/
def context (target : Target) (stage : Stage) (windowed : Bool) : Lowering.Context where
  dialect := target.dialect
  groups := stage.groups
  order := stage.windowTerms
  frame := stage.frame
  windowed := windowed
  strict := target.strict

/-- The names of a verb's expressions: the visible columns and more. -/
def scope (target : Target) (stage : Stage) (more : List String) : Local.Scope where
  columns := stage.level.names ++ more
  env := target.env
  now := target.now

/-- What an expression becomes at this stage. Its columns are the visible ones, and `more`. -/
def lower (target : Target) (stage : Stage) (windowed : Bool) (more : List String)
    (e : Host.Expr) : Compile Sql.Expr := do
  let residual ← Compile.ofExcept (Local.partialEval (stage.scope target more) e)
  Compile.ofNoted (Lowering.lower (stage.context target windowed) residual)

/-! ## The order of rows -/

/-- Does a name of an ordering term still mean something? -/
def knows (target : Target) (stage : Stage) (name : String) : Bool :=
  -- The pronouns are symbols of a term as well, although they name no column.
  stage.level.has name || target.env.has name || name = ".data" || name = ".env"

/-- The ordering terms all of whose names still mean something. -/
def liveTerms (target : Target) (stage : Stage) : List Host.Expr :=
  stage.order.filter (fun term => term.references.all (stage.knows target))

/-- The order of rows as SQL. Output columns are named by their sources where they have one. -/
def orderBy (target : Target) (stage : Stage) : Compile (List Sql.Expr) :=
  (stage.liveTerms target).mapM (fun term => do
    return stage.level.resolve false (← stage.lower target false [] term))

/-- A nested statement is ordered only if its limit depends on it. -/
def nestedOrderBy (target : Target) (stage : Stage) : Compile (List Sql.Expr) :=
  if stage.level.body.limit.isSome then stage.orderBy target else pure []

/-! ## Nesting -/

/-- Makes the level a subquery of a fresh one. -/
def wrap (target : Target) (stage : Stage) : Compile Stage := do
  let select := stage.level.toSelect (← stage.nestedOrderBy target)
  let label ← Compile.nextLabel
  return { stage with level := .ofSource (.subquery select label) stage.level.names }

/-- Starts another level if a condition asks for it. -/
def wrapIf (target : Target) (needed : Bool) (stage : Stage) : Compile Stage :=
  if needed then stage.wrap target else pure stage

/-- Starts another level if this one is closed. -/
def reopen (target : Target) (stage : Stage) : Compile Stage :=
  stage.wrapIf target stage.level.closed

/-- What an expression becomes where aggregates are windows. A level of its own keeps it from
using columns that are computed at the same level. -/
def lowerApart (target : Target) (stage : Stage) (e : Host.Expr) :
    Compile (Stage × Sql.Expr) := do
  let lowered ← stage.lower target true [] e
  if stage.level.usesComputed lowered then do
    let nested ← stage.wrap target
    -- Lowered once more over the names of the nested level; warnings are collected only once.
    return (nested, ← nested.lower target true [] e)
  else return (stage, lowered)

end Stage

end SqlVerbs
