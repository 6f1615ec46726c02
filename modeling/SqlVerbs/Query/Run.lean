import SqlVerbs.Query.Compile

/-!
# Running queries

Statements are run by someone else. A query can be fetched, or stored in a temporary table and
queried further from there.
-/

namespace SqlVerbs

/-- Someone who runs statements. -/
structure Executor (m : Type → Type) (ρ : Type) where
  /-- Runs a query and gives its rows, or the reason why there are none. -/
  fetch : String → m (Except String ρ)
  /-- Runs a statement without a result. -/
  execute : String → m (Except String Unit)

namespace Query

variable {m : Type → Type} [Monad m] {ρ : Type}

def collect (executor : Executor m ρ) (target : Target) (query : Query) :
    m (Except Error ρ) :=
  match query.compile target with
  | .error e => pure (.error e)
  | .ok compiled => do
    return (← executor.fetch compiled.sql).mapError Error.executor

/-- The query over a temporary table with these columns. -/
def ofTemporary (d : Dialect) (name : String) (columns : List String) : Query :=
  .table (d.temporaryTableName name) columns

/-- Stores the rows of a query in a temporary table, and gives the query over that. -/
def compute (executor : Executor m ρ) (target : Target) (name : String) (query : Query) :
    m (Except Error Query) :=
  match query.compile target with
  | .error e => pure (.error e)
  | .ok compiled => do
    let statement := target.dialect.temporaryTable name compiled.sql
    return match ← executor.execute statement with
      -- The new query is over the name as it was given, which is read as a table name again.
      | .ok () => .ok (ofTemporary target.dialect name compiled.columns)
      | .error reason => .error (.executor reason)

end Query

end SqlVerbs
