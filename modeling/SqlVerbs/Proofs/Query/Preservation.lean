import Mathlib.Algebra.Ring.Int.Defs
import SqlVerbs.Dialect.Registry
import SqlVerbs.Proofs.Query.Levels
import SqlVerbs.Proofs.Query.Outcomes
import SqlVerbs.Proofs.Query.Pipelines

/-!
# Compilation preserves rows

The statement that a pipeline is compiled to has the rows that its verbs give one after the other.
The invariant is that the level under construction shows the rows of the verbs so far, and that its
visible columns and groups are theirs. Each verb keeps it, whether it is added to the level, starts
another level first or takes windows out of a condition.
-/

namespace SqlVerbs

open Sql (Semantics TableName rowsOfSelect?)
open Sql.Semantics (HaveColumns)
open Compile (Ensures)

/-! ## The invariant -/

section Invariant

variable {V A : Type} [DecidableEq V] (S : Semantics V A) (tables : TableName → List (Bindings V))

/-- The stage shows these rows with this schema, and nothing is ordered. -/
structure Stage.Shows (stage : Stage) (schema : Schema) (rows : List (Bindings V)) : Prop where
  level : stage.level.Shows S tables rows
  columns : stage.level.names = schema.columns
  groups : stage.groups = schema.groups
  grouped : ∀ group ∈ schema.groups, group ∈ schema.columns
  order : stage.order = []
  windowOrder : stage.windowOrder = []
  frame : stage.frame = none

/-- The stage shows what a step makes of the rows. -/
def Stage.ShowsAfter (target : Target) (schema : Schema) (rows : List (Bindings V)) (step : Step)
    (stage : Stage) : Prop :=
  ∃ rows', step.rows? S target schema rows = some rows' ∧
    stage.Shows S tables (step.schema schema) rows'

end Invariant

namespace Stage.Shows

variable {V A : Type} [DecidableEq V] {S : Semantics V A} {tables : TableName → List (Bindings V)}
  {stage : Stage} {schema : Schema} {rows : List (Bindings V)} {target : Target}
  (h : stage.Shows S tables schema rows)

include h

/-- Another level in the same place. -/
theorem withLevel {level : Level} {rows' : List (Bindings V)}
    (hlevel : level.Shows S tables rows') (hcolumns : level.names = schema.columns) :
    { stage with level := level }.Shows S tables schema rows' :=
  ⟨hlevel, hcolumns, h.groups, h.grouped, h.order, h.windowOrder, h.frame⟩

/-! ## Nesting -/

theorem orderBy : stage.orderBy target = pure [] := by
  rw [Stage.orderBy, Stage.liveTerms, h.order]
  rfl

theorem nestedOrderBy : stage.nestedOrderBy target = pure [] := by
  rw [Stage.nestedOrderBy, h.orderBy]
  split <;> rfl

/-- The next level has a source with the same rows. -/
theorem wrap_source : Ensures (fun next ↦ ∃ source, source.rows? S tables = some rows ∧
    next = { stage with level := .ofSource source stage.level.names }) (stage.wrap target) := by
  rw [Stage.wrap, h.nestedOrderBy, pure_bind]
  refine .bind (.trivial _) (fun label _ ↦ .pure ?_)
  exact ⟨.subquery (stage.level.toSelect []) label, h.level.toSelect, rfl⟩

/-- Nesting keeps the rows, and nothing is computed or closed at the new level. -/
theorem wrap : Ensures (fun next ↦ next.Shows S tables schema rows ∧ next.level.closed = false ∧
    next.level.hasWindows = false) (stage.wrap target) := by
  refine .mono h.wrap_source ?_
  rintro _ ⟨source, hsource, rfl⟩
  refine ⟨h.withLevel (.ofSource h.level.nodup hsource h.level.haveColumns) ?_, rfl, ?_⟩
  · rw [Level.names, Level.columns_ofSource h.level.nodup, Sql.Semantics.names_passed, h.columns]
  · rw [Level.hasWindows, Level.columns_ofSource h.level.nodup]
    exact Sql.Semantics.isWindowed_passed _

theorem wrapIf {needed : Bool} : Ensures (fun next ↦ next.Shows S tables schema rows ∧
    (needed = true → next.level.closed = false ∧ next.level.hasWindows = false) ∧
      (needed = false → next = stage)) (stage.wrapIf target needed) := by
  cases needed with
  | true => exact .mono h.wrap (fun next hnext ↦ ⟨hnext.1, fun _ ↦ hnext.2, nofun⟩)
  | false => exact .pure ⟨h, nofun, fun _ ↦ rfl⟩

theorem reopen : Ensures (fun next ↦ next.Shows S tables schema rows ∧ next.level.closed = false)
    (stage.reopen target) := by
  refine .mono h.wrapIf (fun next hnext ↦ ⟨hnext.1, ?_⟩)
  cases hclosed : stage.level.closed with
  | true => exact (hnext.2.1 hclosed).1
  | false => rw [hnext.2.2 hclosed, hclosed]

/-! ## Expressions -/

theorem scope : stage.scope target [] = schema.scope target := by
  rw [Stage.scope, h.columns, List.append_nil]
  rfl

theorem context : stage.context target true = schema.context target := by
  rw [Stage.context, Stage.windowTerms, h.groups, h.order, h.windowOrder, h.frame]
  rfl

/-- An expression becomes what it means for the rows. It is over the visible columns. -/
theorem lower {e : Host.Expr} (hcovers : (schema.scope target).covers e = true) :
    Ensures (fun lowered ↦ schema.meaning? target e = some lowered ∧
      lowered.Within schema.columns) (stage.lower target true [] e) := by
  rw [Stage.lower, h.scope, h.context]
  refine .bind (.ofExcept _) (fun residual hresidual ↦ ?_)
  refine .mono (.ofNoted _) (fun lowered ⟨warnings, hlowered⟩ ↦ ⟨?_, ?_⟩)
  · simp [Schema.meaning?, hresidual, hlowered, Noted.toExcept, Except.toOption]
  · exact Lowering.lower_within h.grouped rfl (Local.partialEval_columns hcovers hresidual) _ _
      hlowered

theorem lowerApart (hopen : stage.level.closed = false) {e : Host.Expr}
    (hcovers : (schema.scope target).covers e = true) :
    Ensures (fun next ↦ next.1.Shows S tables schema rows ∧ next.1.level.closed = false ∧
      (stage.level.hasWindows = false → next.1.level.hasWindows = false) ∧
        schema.meaning? target e = some next.2 ∧ next.2.Within schema.columns)
      (stage.lowerApart target e) := by
  refine .bind (h.lower hcovers) (fun lowered hlowered ↦ ?_)
  split
  · refine .bind h.wrap (fun nested hnested ↦ ?_)
    refine .bind (hnested.1.lower hcovers) (fun again hagain ↦ .pure ?_)
    exact ⟨hnested.1, hnested.2.1, fun _ ↦ hnested.2.2, hagain⟩
  · exact .pure ⟨h, hopen, id, hlowered⟩

/-! ## Columns -/

theorem mutate {name : String} {e : Host.Expr}
    (hcovers : (schema.scope target).covers e = true) :
    Ensures (ShowsAfter S tables target schema rows (.mutate name e))
      (stage.mutate target name e) := by
  refine .bind h.wrapIf (fun opened hopened ↦ ?_)
  have hopen : opened.level.closed = false := by
    cases hclosed : stage.level.closed with
    | true => exact (hopened.2.1 (by simp [hclosed])).1
    | false => rw [hopened.2.2 (by simp [hclosed, h.level.summarised]), hclosed]
  refine .bind (hopened.1.lowerApart hopen hcovers) (fun ⟨apart, lowered⟩ happart ↦ .pure ?_)
  obtain ⟨hshows, hopen, -, hmeaning, hwithin⟩ := happart
  refine ⟨S.withColumn name lowered rows, by simp [Step.rows?, hmeaning], ?_⟩
  have hnames := Level.names_setColumn apart.level name (apart.level.resolve true lowered)
  rw [hshows.columns] at hnames
  rw [Step.schema]
  refine ⟨hshows.level.setColumn hopen (hshows.columns ▸ hwithin) name, ?_, ?_, ?_,
    hshows.order, hshows.windowOrder, hshows.frame⟩
  · rw [hnames]
    split <;> rfl
  · rw [hshows.groups]
    split <;> rfl
  · split
    · exact hshows.grouped
    · exact fun group hgroup ↦ List.mem_append_left _ (hshows.grouped group hgroup)

/-- The columns that a level has after a pick are those that the rows have. -/
theorem columns_pick {columns : List (String × String)} {keepRest : Bool}
    (hknown : ∀ column ∈ columns, column.2 ∈ schema.columns)
    (hnodup : ((schema.picked columns keepRest).map Prod.fst).Nodup) :
    (if keepRest then Stage.renamedColumns columns stage.level
      else Stage.pickedColumns columns stage.groups stage.level) =
        stage.level.columns.pick (schema.picked columns keepRest) := by
  rw [← h.columns] at hknown
  cases keepRest with
  | true =>
    have hpick := Bindings.pick_names h.level.nodup
      (fun name ↦ (Stage.newName? columns name).getD name)
    rw [Schema.picked, if_pos rfl, ← h.columns, List.map_map] at hnodup
    rw [if_pos rfl, Schema.picked, if_pos rfl, ← h.columns, Level.names, hpick]
    refine Bindings.ofPairs_of_nodup ?_
    simpa [Level.names, Bindings.names, Function.comp_def] using hnodup
  | false =>
    rw [Schema.picked, if_neg (by simp)] at hnodup ⊢
    rw [if_neg (by simp), Stage.pickedColumns, h.groups]
    have hgroups : ∀ group ∈ schema.groups.filter
        (fun group ↦ (Stage.newName? columns group).isNone), group ∈ stage.level.names :=
      fun group hgroup ↦ h.columns ▸ h.grouped group (List.mem_of_mem_filter hgroup)
    refine Eq.trans ?_ (Bindings.ofPairs_pick hgroups hknown hnodup)
    rw [Bindings.pick, Bindings.same, List.filterMap_map]
    rfl

theorem pick {columns : List (String × String)} {keepRest : Bool}
    (hnodup : ((schema.picked columns keepRest).map Prod.fst).Nodup) :
    Ensures (ShowsAfter S tables target schema rows (.pick columns keepRest))
      (stage.pick target columns keepRest) := by
  refine .bind h.reopen (fun opened hopened ↦ ?_)
  obtain ⟨hshows, hopen⟩ := hopened
  split
  · exact .fail _
  · rename_i hknown
    have hknown : ∀ column ∈ columns, column.2 ∈ schema.columns := fun column hcolumn ↦
      hshows.columns ▸ Level.mem_of_unknown? hknown column.2 (List.mem_map_of_mem hcolumn)
    have hnames : (opened.level.columns.pick (schema.picked columns keepRest)).names =
        (schema.picked columns keepRest).map Prod.fst := by
      refine Bindings.names_pick (fun column hcolumn ↦ ?_)
      have hold := Schema.picked_subset hshows.grouped hknown column hcolumn
      rwa [← hshows.columns] at hold
    refine .pure ⟨_, rfl, ?_⟩
    rw [hshows.columns_pick hknown hnodup]
    refine ⟨hshows.level.withColumns hopen (hnames ▸ hnodup) (fun source hrows ↦ ?_), hnames,
      congrArg (List.map _) hshows.groups, ?_, hshows.order, hshows.windowOrder, hshows.frame⟩
    · rw [S.project_pick, hrows]
    · simpa [Step.schema] using Schema.grouped_picked hshows.grouped

/-! ## Rows -/

theorem hoist (hopen : stage.level.closed = false) {condition : Sql.Expr}
    (hcondition : condition.Within schema.columns) :
    Ensures (fun next ↦ next.Shows S tables schema (S.keepWhere [condition] rows))
      (stage.hoist target condition) := by
  obtain ⟨rest, windows, htaken⟩ :
      ∃ rest windows, takeWindows stage.level.names condition [] = (rest, windows) := ⟨_, _, rfl⟩
  have htakes : Takes stage.level.names [] windows [condition] [rest] := by
    simpa [htaken] using takes_takeWindows stage.level.names condition []
  rw [← h.columns] at hcondition
  have hnodup : (stage.level.names ++ windows.map Prod.fst).Nodup :=
    htakes.nodup (by simpa using h.level.nodup)
  have hwindows : ∀ w ∈ windows, w.2.Within stage.level.names := by
    intro w hw
    obtain hw | ⟨-, e, he, hpart⟩ := htakes.windows w hw
    · cases hw
    · exact (List.mem_singleton.1 he ▸ hcondition).part hpart
  obtain ⟨hset, hnames, -⟩ := h.level.setWindows hopen hnodup hwindows
  have hextended : { stage with level := stage.level.setWindows windows }.Shows S tables
      ⟨stage.level.names ++ windows.map Prod.fst, schema.groups⟩ (S.extend windows rows) := by
    refine ⟨hset, hnames, h.groups, fun group hgroup ↦ ?_, h.order, h.windowOrder, h.frame⟩
    exact List.mem_append_left _ (h.columns ▸ h.grouped group hgroup)
  have hunfold : stage.hoist target condition =
      ({ stage with level := stage.level.setWindows windows }.wrap target >>= fun nested ↦
        pure { nested with level := (nested.level.addFilter rest).keepOnly stage.level.names }) := by
    rw [Stage.hoist, htaken]
  rw [hunfold]
  refine .bind hextended.wrap_source ?_
  rintro _ ⟨source, hsource, rfl⟩
  refine .pure (h.withLevel ?_ ?_)
  · rw [hnames]
    exact .keepOnly_addFilter htakes h.level.nodup h.level.haveColumns hcondition hsource
      (hnames ▸ hset.haveColumns)
  · rw [hnames, Level.names, Level.columns_keepOnly hnodup, Sql.Semantics.names_passed, h.columns]

theorem filter {e : Host.Expr} (hcovers : (schema.scope target).covers e = true) :
    Ensures (ShowsAfter S tables target schema rows (.filter e)) (stage.filter target e) := by
  refine .bind h.wrapIf (fun opened hopened ↦ ?_)
  have hopen : opened.level.closed = false ∧ opened.level.hasWindows = false := by
    cases hneeded : stage.level.closed || (!stage.level.summarised && stage.level.hasWindows) with
    | true => exact hopened.2.1 hneeded
    | false =>
      rw [hopened.2.2 hneeded]
      simpa [h.level.summarised] using hneeded
  rw [if_neg (by simp [hopened.1.level.summarised])]
  refine .bind (hopened.1.lowerApart hopen.1 hcovers) (fun ⟨apart, condition⟩ happart ↦ ?_)
  obtain ⟨hshows, hopen', hwindows, hmeaning, hwithin⟩ := happart
  have hrows : (Step.filter e).rows? S target schema rows = some (S.keepWhere [condition] rows) := by
    simp [Step.rows?, hmeaning]
  dsimp only
  split
  · exact .mono (hshows.hoist hopen' hwithin) (fun next hnext ↦ ⟨_, hrows, hnext⟩)
  · rename_i hcondition
    refine .pure ⟨_, hrows, hshows.withLevel ?_ hshows.columns⟩
    exact hshows.level.addFilter hopen' (hshows.columns ▸ hwithin) (hwindows hopen.2)
      (by simpa using hcondition)

theorem distinct : Ensures (ShowsAfter S tables target schema rows .distinct)
    (stage.distinct target) := by
  refine .bind h.reopen (fun opened hopened ↦ .pure ⟨rows.eraseDups, rfl, ?_⟩)
  have hrows : Sql.finishRows true opened.level.body.limit rows = rows.eraseDups := by
    rw [(hopened.1.level.unfinished hopened.2).2]
    rfl
  exact hopened.1.withLevel (hrows ▸ hopened.1.level.close hopened.2 true _) hopened.1.columns

theorem head (count : UInt64) : Ensures (ShowsAfter S tables target schema rows (.head count))
    (stage.head target count) := by
  refine .bind h.reopen (fun opened hopened ↦ .pure ⟨rows.take count.toNat, rfl, ?_⟩)
  have hrows : Sql.finishRows opened.level.body.distinct (some count) rows =
      rows.take count.toNat := by
    rw [(hopened.1.level.unfinished hopened.2).1]
    rfl
  exact hopened.1.withLevel (hrows ▸ hopened.1.level.close hopened.2 _ _) hopened.1.columns

/-! ## Groups -/

theorem groupBy (columns : List String) :
    Ensures (ShowsAfter S tables target schema rows (.groupBy columns)) (stage.groupBy columns) := by
  rw [Stage.groupBy]
  split
  · exact .fail _
  · rename_i hknown
    refine .pure ⟨rows, rfl, h.level, h.columns, rfl, ?_, h.order, h.windowOrder, h.frame⟩
    exact h.columns ▸ Level.mem_of_unknown? hknown

theorem ungroup :
    ShowsAfter S tables target schema rows .ungroup { stage with groups := [] } :=
  ⟨rows, rfl, h.level, h.columns, rfl, by simp [Step.schema], h.order, h.windowOrder, h.frame⟩

end Stage.Shows

/-! ## Whole pipelines -/

/-- What a step does to a stage. -/
def Step.compile (target : Target) (stage : Stage) : Step → Compile Stage
  | .pick columns keepRest => stage.pick target columns keepRest
  | .filter e => stage.filter target e
  | .mutate name e => stage.mutate target name e
  | .groupBy columns => stage.groupBy columns
  | .ungroup => pure { stage with groups := [] }
  | .distinct => stage.distinct target
  | .head count => stage.head target count
  | .collapse => stage.wrap target

/-- What steps do to a stage, one after the other. -/
def Pipeline.compileFrom (target : Target) (stage : Stage) (steps : List Step) : Compile Stage :=
  steps.foldlM (fun stage step ↦ step.compile target stage) stage

/-- The last stage of a pipeline. -/
def Pipeline.compile (target : Target) (pipeline : Pipeline) : Compile Stage :=
  compileFrom target (.ofTable pipeline.table pipeline.columns) pipeline.steps

section Pipelines

variable {V A : Type} [DecidableEq V] {S : Semantics V A} {tables : TableName → List (Bindings V)}
  {target : Target}

/-- Every step keeps the invariant. -/
theorem Step.compile_shows {stage : Stage} {schema : Schema} {rows : List (Bindings V)}
    (h : stage.Shows S tables schema rows) {step : Step}
    (hclear : step.isClear target schema = true) :
    Ensures (Stage.ShowsAfter S tables target schema rows step) (step.compile target stage) := by
  cases step with
  | pick columns keepRest => exact h.pick (of_decide_eq_true hclear)
  | filter e => exact h.filter hclear
  | mutate name e => exact h.mutate hclear
  | groupBy columns => exact h.groupBy columns
  | ungroup => exact .pure h.ungroup
  | distinct => exact h.distinct
  | head count => exact h.head count
  | collapse => exact .mono h.wrap (fun next hnext ↦ ⟨rows, rfl, hnext.1⟩)

/-- All steps together keep the invariant. -/
theorem Pipeline.compileFrom_shows {stage : Stage} {schema : Schema} {rows : List (Bindings V)}
    (h : stage.Shows S tables schema rows) {steps : List Step}
    (hclear : areClear target schema steps = true) :
    Ensures (fun next ↦ ∃ rows' schema', rowsFrom? S target schema rows steps = some rows' ∧
      next.Shows S tables schema' rows') (compileFrom target stage steps) := by
  induction steps generalizing stage schema rows with
  | nil => exact .pure ⟨rows, schema, rfl, h⟩
  | cons step later ih =>
    rw [areClear, Bool.and_eq_true] at hclear
    rw [compileFrom, List.foldlM_cons]
    refine .bind (Step.compile_shows h hclear.1) ?_
    rintro next ⟨rows', hrows', hnext⟩
    refine .mono (ih hnext hclear.2) ?_
    rintro last ⟨rows'', schema'', hrows'', hlast⟩
    exact ⟨rows'', schema'', by simpa [rowsFrom?, hrows'] using hrows'', hlast⟩

theorem Pipeline.compile_andThen (pipeline : Pipeline) (steps : List Step) :
    (pipeline.andThen steps).compile target =
      pipeline.compile target >>= fun stage ↦ compileFrom target stage steps :=
  List.foldlM_append

/-- A query is built step by step. -/
theorem Query.build_eq_compile {query : Query} {pipeline : Pipeline}
    (h : query.pipeline? = some pipeline) : query.build target = pipeline.compile target := by
  have hone {parent : Query} {step : Step} {pipeline : Pipeline}
      (ih : ∀ {before}, parent.pipeline? = some before →
        parent.build target = before.compile target)
      (h : parent.pipeline?.map (·.andThen [step]) = some pipeline) :
      (parent.build target >>= fun stage ↦ step.compile target stage) =
        pipeline.compile target := by
    obtain ⟨before, hbefore, rfl⟩ := Option.map_eq_some_iff.1 h
    simp [ih hbefore, Pipeline.compile_andThen, Pipeline.compileFrom]
  induction query generalizing pipeline with
  | table name columns => cases h; rfl
  | filter parent predicates ih =>
    obtain ⟨before, hbefore, rfl⟩ := Option.map_eq_some_iff.1 h
    simp only [build, ih hbefore, Pipeline.compile_andThen, Pipeline.compileFrom, List.foldlM_map]
    rfl
  | mutate parent columns ih =>
    obtain ⟨before, hbefore, rfl⟩ := Option.map_eq_some_iff.1 h
    simp only [build, ih hbefore, Pipeline.compile_andThen, Pipeline.compileFrom, List.foldlM_map]
    rfl
  | pick parent columns keepRest ih => exact hone ih h
  | groupBy parent columns ih => exact hone ih h
  | ungroup parent ih => exact hone ih h
  | distinct parent ih => exact hone ih h
  | head parent count ih => exact hone ih h
  | collapse parent ih => exact hone ih h
  | arrange | summarise | join | windowOrder | windowFrame => cases h

/-- The last stage of a pipeline shows its rows. -/
theorem Pipeline.compile_shows (S : Semantics V A) {pipeline : Pipeline}
    (hclear : pipeline.isClear target = true)
    (htable : HaveColumns (tables (.ofText pipeline.table)) pipeline.columns) :
    Ensures (fun stage ↦ ∃ rows schema, pipeline.rows? S target tables = some rows ∧
      stage.Shows S tables schema rows) (pipeline.compile target) := by
  rw [isClear, Bool.and_eq_true, decide_eq_true_eq] at hclear
  have hlevel : (Stage.ofTable pipeline.table pipeline.columns).level.Shows S tables
      (tables (.ofText pipeline.table)) := .ofSource hclear.1 rfl htable
  have hstart : (Stage.ofTable pipeline.table pipeline.columns).Shows S tables
      ⟨pipeline.columns, []⟩ (tables (.ofText pipeline.table)) := by
    refine ⟨hlevel, ?_, rfl, by simp, rfl, rfl, rfl⟩
    rw [Stage.ofTable, Level.names, Level.columns_ofSource hclear.1, Sql.Semantics.names_passed]
  exact compileFrom_shows hstart hclear.2

end Pipelines

/-- A pipeline of verbs on rows that compiles becomes a statement with the rows that the verbs give
one after the other, whatever the tables hold and the operators mean. -/
theorem Query.compile_preserves_rows {V A : Type} [DecidableEq V] (S : Semantics V A)
    (tables : TableName → List (Bindings V)) {target : Target} {query : Query}
    {pipeline : Pipeline} {compiled : Compiled} (hpipeline : query.pipeline? = some pipeline)
    (hclear : pipeline.isClear target = true)
    (htable : HaveColumns (tables (.ofText pipeline.table)) pipeline.columns)
    (h : query.compile target = .ok compiled) :
    ∃ select progress rows,
      (query.toSelect target).run {} = .ok ((select, compiled.columns), progress) ∧
        compiled.sql = select.render target.dialect ∧
          pipeline.rows? S target tables = some rows ∧
            rowsOfSelect? S tables select = some rows := by
  obtain ⟨⟨⟨select, columns⟩, progress⟩, hselect, hcompiled⟩ := bind_eq_ok.1 h
  cases hcompiled
  have hrows : Ensures (fun result ↦ ∃ rows, pipeline.rows? S target tables = some rows ∧
      rowsOfSelect? S tables result.1 = some rows) (query.toSelect target) := by
    rw [toSelect, build_eq_compile hpipeline]
    refine .bind (Pipeline.compile_shows S hclear htable) ?_
    rintro stage ⟨rows, schema, hrows, hshows⟩
    rw [hshows.orderBy, pure_bind]
    exact .pure ⟨rows, hrows, hshows.level.toSelect⟩
  obtain ⟨rows, hrows, hresult⟩ := hrows {} _ progress hselect
  exact ⟨select, progress, rows, hselect, rfl, hrows, hresult⟩

/-- Integers, with sums over partitions for all aggregates. -/
def Sql.Semantics.sums : Semantics Int (List Int) where
  literal
    | .integer (some i) => i.toInt
    | _ => 0
  missing _ _ := 0
  star := 1
  raw _ := 0
  list values := values.sum
  function _ args _ := args.sum
  binary
    | l, .lt, r => if l < r then 1 else 0
    | l, .eq, r => if l = r then 1 else 0
    | l, _, r => l + r
  unary _ value := -value
  isNull _ := 0
  between value _ _ := value
  elemOf value _ := value
  caseWhen _ _ := 0
  cast value _ := value
  withinGroup value _ := value
  desc value := value
  aggregate _ columns _ := columns.headD []
  aggregateWithin column _ := column
  aggregateOf column := column
  window column partition _ _ n i :=
    let peers := (List.range n).filter (fun j ↦ partition.all (fun key ↦ key[j]? = key[i]?))
    (peers.map (fun j ↦ column.getD j 0)).sum
  holds value := value ≠ 0

/-- A condition on a computed column, and one on a window over the rows that are left. -/
def groupShares : Query :=
  let total := Host.Expr.call "sum" [.symbol "x"] []
  let isPart := Host.Expr.call "<" [.symbol "x", .symbol "y"] []
  let isFive := Host.Expr.call "==" [total, .literal (.integer (some 5))] []
  ((((Query.table "t" ["g", "x"]).groupBy ["g"]).mutate [("y", total)]).filter
    [isPart, isFive]).rename [("part", "x")] |>.head 1

def groupShares.target : Target where
  dialect := .ansi
  now := ⟨⟨2000, 1, 1⟩, 0, 0, 0⟩

def groupShares.tables : TableName → List (Bindings Int) := fun _ ↦
  [[("g", 1), ("x", 2)], [("g", 1), ("x", 3)], [("g", 2), ("x", 4)]]

open groupShares in
theorem Query.compile_preserves_rows_groupShares :
    ∃ pipeline compiled select progress, groupShares.pipeline? = some pipeline ∧
      pipeline.isClear target = true ∧ groupShares.compile target = .ok compiled ∧
        (groupShares.toSelect target).run {} = .ok ((select, compiled.columns), progress) ∧
          pipeline.rows? .sums target tables = some [[("g", 1), ("part", 2), ("y", 5)]] ∧
            rowsOfSelect? .sums tables select = some [[("g", 1), ("part", 2), ("y", 5)]] := by
  obtain ⟨pipeline, hpipeline, hclear, htable, hfirst⟩ :
      ∃ pipeline, groupShares.pipeline? = some pipeline ∧ pipeline.isClear target = true ∧
        HaveColumns (tables (.ofText pipeline.table)) pipeline.columns ∧
          pipeline.rows? .sums target tables = some [[("g", 1), ("part", 2), ("y", 5)]] :=
    ⟨_, rfl, by decide +kernel, by simp [HaveColumns, tables, Bindings.names, Pipeline.andThen],
      by decide +kernel⟩
  obtain ⟨compiled, hcompiled⟩ : ∃ compiled, groupShares.compile target = .ok compiled := ⟨_, rfl⟩
  obtain ⟨select, progress, rows, hselect, -, hrows, hresult⟩ :=
    Query.compile_preserves_rows .sums tables hpipeline hclear htable hcompiled
  obtain rfl : rows = _ := Option.some.inj (hrows.symm.trans hfirst)
  exact ⟨pipeline, compiled, select, progress, hpipeline, hclear, hcompiled, hselect, hrows, hresult⟩

end SqlVerbs
