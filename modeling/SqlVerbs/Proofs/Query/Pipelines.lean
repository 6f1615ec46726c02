import SqlVerbs.Proofs.Local.Names
import SqlVerbs.Proofs.Query.Rows
import SqlVerbs.Query.Compile

/-!
# Verbs on rows

A pipeline is a table and the verbs applied to it that keep rows apart: none of them summarises,
joins, orders or changes the order of windows. Its rows are found by applying one verb after the
other to the rows of the table. A condition or a new column is an expression over the columns that
there are by then. Aggregates in it are windows over the groups that there are by then.
-/

namespace SqlVerbs

/-- What is known of rows before there are any. -/
structure Schema where
  columns : List String
  groups : List String

namespace Schema

/-- What the names of an expression stand for. -/
def scope (target : Target) (schema : Schema) : Local.Scope where
  columns := schema.columns
  env := target.env
  now := target.now

/-- Where the expressions of verbs stand. -/
def context (target : Target) (schema : Schema) : Lowering.Context where
  dialect := target.dialect
  groups := schema.groups
  windowed := true
  strict := target.strict

/-- What an expression means. Its aggregates are windows over the groups. -/
def meaning? (target : Target) (schema : Schema) (e : Host.Expr) : Option Sql.Expr := do
  let residual ← (Local.partialEval (schema.scope target) e).toOption
  (Lowering.lower (schema.context target) residual).toExcept.toOption

/-- The columns that are picked, as pairs of new and old name. Without the rest, groups that are
not listed stay in front. -/
def picked (schema : Schema) (columns : List (String × String)) (keepRest : Bool) :
    List (String × String) :=
  if keepRest then
    schema.columns.map (fun name ↦ ((Stage.newName? columns name).getD name, name))
  else
    let unlisted := schema.groups.filter (fun group ↦ (Stage.newName? columns group).isNone)
    Bindings.same (dedup unlisted) ++ columns

section Picked

variable {schema : Schema} (hgroups : ∀ group ∈ schema.groups, group ∈ schema.columns)
  {columns : List (String × String)} {keepRest : Bool}

include hgroups

theorem picked_subset (hknown : ∀ column ∈ columns, column.2 ∈ schema.columns) :
    ∀ column ∈ schema.picked columns keepRest, column.2 ∈ schema.columns := by
  intro column hcolumn
  rw [picked] at hcolumn
  split at hcolumn
  · obtain ⟨name, hname, rfl⟩ := List.mem_map.1 hcolumn
    exact hname
  · rcases List.mem_append.1 hcolumn with hsame | hlisted
    · obtain ⟨group, hgroup, rfl⟩ := List.mem_map.1 hsame
      exact hgroups group (List.mem_of_mem_filter (mem_dedup.1 hgroup))
    · exact hknown column hlisted

/-- Groups stay columns under their new names. -/
theorem grouped_picked : ∀ group ∈ schema.groups,
    (Stage.newName? columns group).getD group ∈ (schema.picked columns keepRest).map Prod.fst := by
  intro group hgroup
  rw [picked]
  split
  · simpa using ⟨group, hgroups group hgroup, rfl⟩
  · rw [List.map_append, List.mem_append]
    cases hnew : Stage.newName? columns group with
    | none =>
      have hunlisted : group ∈ dedup (schema.groups.filter
          (fun group ↦ (Stage.newName? columns group).isNone)) := by
        simp [mem_dedup, hgroup, hnew]
      exact .inl (by simpa [Bindings.same] using hunlisted)
    | some name =>
      obtain ⟨column, hcolumn, rfl⟩ := Option.map_eq_some_iff.1 hnew
      exact .inr (List.mem_map_of_mem (List.mem_of_find?_eq_some hcolumn))

end Picked

end Schema

/-- One step on rows. -/
inductive Step where
  | pick (columns : List (String × String)) (keepRest : Bool)
  | filter (predicate : Host.Expr)
  | mutate (name : String) (e : Host.Expr)
  | groupBy (columns : List String)
  | ungroup
  | distinct
  | head (count : UInt64)
  | collapse

namespace Step

/-- The schema after a step. -/
def schema (schema : Schema) : Step → Schema
  | .pick columns keepRest =>
    ⟨(schema.picked columns keepRest).map Prod.fst,
      schema.groups.map (fun group ↦ (Stage.newName? columns group).getD group)⟩
  | .mutate name _ =>
    if name ∈ schema.columns then schema else { schema with columns := schema.columns ++ [name] }
  | .groupBy columns => { schema with groups := columns }
  | .ungroup => { schema with groups := [] }
  | .filter _ | .distinct | .head _ | .collapse => schema

/-- Does the step mention visible columns and local bindings only, and does it give no name to two
columns? -/
def isClear (target : Target) (schema : Schema) : Step → Bool
  | .pick columns keepRest => decide ((schema.picked columns keepRest).map Prod.fst).Nodup
  | .filter e | .mutate _ e => (schema.scope target).covers e
  | .groupBy _ | .ungroup | .distinct | .head _ | .collapse => true

section Rows

variable {V A : Type} [DecidableEq V] (S : Sql.Semantics V A) (target : Target)

/-- The rows after a step, if its expressions mean something. -/
def rows? (schema : Schema) (rows : List (Bindings V)) : Step → Option (List (Bindings V))
  | .pick columns keepRest =>
    some (rows.map (fun row ↦ row.pick (schema.picked columns keepRest)))
  | .filter e => (schema.meaning? target e).map (fun condition ↦ S.keepWhere [condition] rows)
  | .mutate name e => (schema.meaning? target e).map (fun value ↦ S.withColumn name value rows)
  | .distinct => some rows.eraseDups
  | .head count => some (rows.take count.toNat)
  | .groupBy _ | .ungroup | .collapse => some rows

end Rows

end Step

/-- A table and the steps on its rows. -/
structure Pipeline where
  table : String
  columns : List String
  steps : List Step

namespace Pipeline

/-- More steps at the end. -/
def andThen (pipeline : Pipeline) (steps : List Step) : Pipeline :=
  { pipeline with steps := pipeline.steps ++ steps }

/-- Are all steps clear, from a schema on? -/
def areClear (target : Target) : Schema → List Step → Bool
  | _, [] => true
  | schema, step :: later =>
    step.isClear target schema && areClear target (step.schema schema) later

/-- Are the columns of the table distinct, and all steps clear? -/
def isClear (target : Target) (pipeline : Pipeline) : Bool :=
  decide pipeline.columns.Nodup && areClear target ⟨pipeline.columns, []⟩ pipeline.steps

section Rows

variable {V A : Type} [DecidableEq V] (S : Sql.Semantics V A) (target : Target)

/-- The rows after some steps. -/
def rowsFrom? : Schema → List (Bindings V) → List Step → Option (List (Bindings V))
  | _, rows, [] => some rows
  | schema, rows, step :: later => do
    rowsFrom? (step.schema schema) (← step.rows? S target schema rows) later

/-- The rows of a pipeline over the contents of tables. -/
def rows? (tables : Sql.TableName → List (Bindings V)) (pipeline : Pipeline) :
    Option (List (Bindings V)) :=
  rowsFrom? S target ⟨pipeline.columns, []⟩ (tables (.ofText pipeline.table)) pipeline.steps

end Rows

end Pipeline

/-- The pipeline that a query is, if it has no other verbs. -/
def Query.pipeline? : Query → Option Pipeline
  | .table name columns => some ⟨name, columns, []⟩
  | .pick parent columns keepRest =>
    parent.pipeline?.map (·.andThen [.pick columns keepRest])
  | .filter parent predicates => parent.pipeline?.map (·.andThen (predicates.map .filter))
  | .mutate parent columns =>
    parent.pipeline?.map (·.andThen (columns.map (fun column ↦ .mutate column.1 column.2)))
  | .groupBy parent columns => parent.pipeline?.map (·.andThen [.groupBy columns])
  | .ungroup parent => parent.pipeline?.map (·.andThen [.ungroup])
  | .distinct parent => parent.pipeline?.map (·.andThen [.distinct])
  | .head parent count => parent.pipeline?.map (·.andThen [.head count])
  | .collapse parent => parent.pipeline?.map (·.andThen [.collapse])
  | .arrange .. | .summarise .. | .join .. | .windowOrder .. | .windowFrame .. => none

end SqlVerbs
