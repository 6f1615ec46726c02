import SqlVerbs.Query.Join
import SqlVerbs.Query.Verb

/-!
# Compiling queries

The verbs of a query are added one after the other, and the last level is the statement.
-/

namespace SqlVerbs

structure Compiled where
  sql : String
  /-- The warnings about the expressions of its verbs, each of them once. -/
  warnings : List Warning
  /-- The names of the output columns. -/
  columns : List String

namespace Query

/-- The last stage of a query. -/
def build (target : Target) : Query → Compile Stage
  | .table name columns => pure (.ofTable name columns)
  | .pick parent columns keepRest => do
    (← build target parent).pick target columns keepRest
  | .filter parent predicates => do
    predicates.foldlM (fun stage predicate => stage.filter target predicate)
      (← build target parent)
  | .arrange parent terms => do (← build target parent).arrange target terms
  | .mutate parent columns => do
    columns.foldlM (fun stage column => stage.mutate target column.1 column.2)
      (← build target parent)
  | .summarise parent columns => do (← build target parent).summarise target columns
  | .groupBy parent columns => do (← build target parent).groupBy columns
  | .ungroup parent => do return { ← build target parent with groups := [] }
  | .join left right type keys suffixes => do
    -- The left side comes first, so its subqueries have the lower numbers.
    let left ← build target left
    left.join target (← build target right) type keys suffixes
  | .distinct parent => do (← build target parent).distinct target
  | .head parent count => do (← build target parent).head target count
  | .windowOrder parent terms => do return { ← build target parent with windowOrder := terms }
  | .windowFrame parent frame => do return { ← build target parent with frame := some frame }
  | .collapse parent => do (← build target parent).wrap target

/-- The statement of a query, with the names of its columns. -/
def toSelect (target : Target) (query : Query) : Compile (Sql.Select × List String) := do
  let stage ← query.build target
  return (stage.level.toSelect (← stage.orderBy target), stage.level.names)

def compile (target : Target) (query : Query) : Except Error Compiled := do
  let ((select, columns), progress) ← (query.toSelect target).run {}
  return ⟨select.render target.dialect, progress.warnings, columns⟩

def explain (target : Target) (query : Query) : Except Error String := do
  target.dialect.explain (← query.compile target).sql

end Query

end SqlVerbs
