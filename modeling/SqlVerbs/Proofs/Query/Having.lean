import SqlVerbs.Proofs.Query.Scoping
import SqlVerbs.Proofs.Query.WindowClauses
import SqlVerbs.Proofs.Sql.Engine

/-!
# Conditions on summaries

A condition on the columns of a summary is added to the summary itself, as a condition on its groups
with definitions in place of columns. Nesting the summary first gives the same rows, under any
engine, as long as the condition has no aggregates of its own: these would range over the rows that
are summarised. A condition with windows is not added to the summary, and then both ways give the
same statement.
-/

namespace SqlVerbs

open Compile (Ensures Yields Steady)
open Sql (Engine TableName Row)

/-! ## The rows of a summary under a condition -/

theorem Sql.Expr.inline_eq_self {defs : String → Option Expr}
    (h : ∀ name definition, defs name = some definition → definition = .column name) (e : Expr) :
    e.inline defs = e := by
  induction e using Expr.induction_columns with
  | column name =>
    rw [inline]
    cases hdefinition : defs name with
    | none => rfl
    | some definition => exact h name definition hdefinition
  | node e hcolumn ih => rw [inline_of_ne_column hcolumn, mapChildren_eq_self ih]

namespace Level

theorem selectList_ofSource {names : List String} (h : names.Nodup) (source : Sql.Source) :
    (ofSource source names).selectList = .star := by
  have hstar : (ofSource source names).isStar = true := by
    rw [isStar, columns_ofSource h, Bool.and_eq_true]
    refine ⟨by simp [Sql.Semantics.passed, ofSource], ?_⟩
    rw [Sql.Semantics.passed, ofSource, List.zipWith_map_left, List.zipWith_self, List.all_map,
      List.all_eq_true]
    exact fun name _ ↦ passesOn_iff.2 rfl
  rw [selectList, if_pos hstar]

theorem resolve_ofSource {source : Sql.Source} {names : List String} (e : Sql.Expr) :
    (ofSource source names).resolve true e = e := by
  rw [resolve_true]
  refine Sql.Expr.inline_eq_self (fun name definition hdefinition ↦ ?_) e
  obtain ⟨_, -, heq⟩ := mem_columns_ofSource (Bindings.mem_of_get? hdefinition)
  cases heq
  rfl

/-- The first output column of a name has the definition of the name. -/
theorem find?_named {columns : Bindings Sql.Expr} {name : String} {definition : Sql.Expr}
    (h : columns.get? name = some definition) :
    ∃ item, (columns.map (fun entry ↦ Sql.SelectItem.named entry.2 entry.1)).find?
      (fun item ↦ item.outputName? = some name) = some item ∧ item.expr = definition := by
  induction columns with
  | nil => cases h
  | cons entry later ih =>
    have hnamed := Sql.outputName?_named entry.2 entry.1
    rw [Bindings.get?] at h
    rw [List.map_cons, List.find?_cons, hnamed.1]
    by_cases hname : entry.1 = name
    · rw [if_pos hname] at h
      exact ⟨_, by simp [hname], hnamed.2.trans (Option.some.inj h)⟩
    · rw [if_neg hname] at h
      simpa [hname] using ih h

variable {V : Type} (E : Engine V)

/-- A visible column of a level has the value of its definition in the output. -/
theorem output_selectList {level : Level} {name : String} {definition : Sql.Expr}
    (h : level.columns.get? name = some definition) (value : Sql.Expr → V) :
    E.output value level.selectList name = value definition := by
  rw [selectList]
  split
  · rename_i hstar
    have hmem := Bindings.mem_of_get? h
    rw [columns_of_isStar hstar] at hmem
    obtain ⟨_, -, heq⟩ := List.mem_map.1 hmem
    cases heq
    rfl
  · obtain ⟨item, hitem, rfl⟩ := find?_named h
    simp only [Engine.output, hitem]

/-- A level that is a summary, to which nothing was added yet. -/
structure IsSummary (level : Level) : Prop where
  opened : level.closed = false
  summarised : level.summarised = true
  having : level.body.having = []
  distinct : level.body.distinct = false
  limit : level.body.limit = none
  windowless : level.hasWindows = false
  nodup : level.names.Nodup

theorem IsSummary.toSelect_withoutHaving {level : Level} (h : level.IsSummary) :
    { level.toSelect [] with having := [] } = level.toSelect [] := by
  simp [toSelect, h.having]

theorem IsSummary.toSelect_addHaving {level : Level} (h : level.IsSummary)
    (condition : Sql.Expr) :
    (level.addHaving condition).toSelect [] =
      { level.toSelect [] with having := [condition] } := by
  simp [addHaving, toSelect, h.having, selectList, isStar]

theorem toSelect_addFilter_ofSource {names : List String} (h : names.Nodup)
    (source : Sql.Source) (condition : Sql.Expr) :
    ((ofSource source names).addFilter condition).toSelect [] =
      { source, filters := [condition] } := by
  have hstar : ((ofSource source names).addFilter condition).selectList = .star :=
    selectList_ofSource h source
  rw [toSelect, hstar]
  rfl

/-- The rows of a summary under a condition on groups are those of the nested summary under the
condition on columns. -/
theorem IsSummary.rows_having {level : Level} (h : level.IsSummary)
    (tables : TableName → List (Row V)) {condition : Sql.Expr} {windows : Bool} (label : String)
    (hover : condition.Over level.names windows) (hscalar : E.isScalar condition = true)
    (hgrouped : E.isGrouped (level.toSelect []) = true) :
    E.rows tables ((level.addHaving (level.resolve true condition)).toSelect []) =
      E.rows tables (((ofSource (.subquery (level.toSelect []) label) level.names).addFilter
        condition).toSelect []) := by
  -- For every group, the condition with definitions has the value that it has in the output row.
  have hvalue (group : List (Sql.Env V)) :
      E.inGroup group (level.resolve true condition) =
        E.inRow (E.labelled (some label) (E.output (E.inGroup group) level.selectList))
          condition := by
    rw [level.resolve_true]
    refine Engine.inGroup_inline hover hscalar (fun name hname ↦ ?_)
    obtain ⟨definition, hdefinition⟩ := Option.isSome_iff_exists.1 (Bindings.get?_isSome.2 hname)
    exact ⟨definition, hdefinition, output_selectList E hdefinition _⟩
  have hanswer := fun rows ↦ @Engine.answer_having V E _
    { level.toSelect [] with having := [level.resolve true condition] } h.distinct rfl h.limit
    (isWindowed_selectList h.windowless) _ condition (some label) rfl
    (h.toSelect_withoutHaving ▸ hgrouped) hvalue rows
  rw [h.toSelect_addHaving, toSelect_addFilter_ofSource h.nodup, E.rows_filtered, E.rows_eq,
    E.rows_eq, hanswer, h.toSelect_withoutHaving]

end Level

/-! ## Stages that are summaries -/

/-- Last clauses close a level, and only a summary has groups and conditions on them. -/
structure Level.IsOrdinary (level : Level) : Prop where
  unfinished : level.closed = false → level.body.distinct = false ∧ level.body.limit = none
  having : level.summarised = false → level.body.having = []
  groups : level.summarised = false → level.body.groups = []

theorem Level.IsOrdinary.ofSource (source : Sql.Source) (names : List String) :
    (Level.ofSource source names).IsOrdinary := ⟨fun _ ↦ ⟨rfl, rfl⟩, fun _ ↦ rfl, fun _ ↦ rfl⟩

theorem Stage.isOrdinary_nests {target : Target} {stage next : Stage}
    (h : stage.level.IsOrdinary) (hnests : stage.Nests target next) : next.level.IsOrdinary := by
  cases hnests with
  | none => exact h
  | more _ nested =>
    obtain ⟨-⟩ := nested
    exact .ofSource _ _

theorem Stage.isOrdinary_acts {target : Target} {stage next : Stage} {verb : Verb}
    (h : stage.level.IsOrdinary) (hacts : verb.Acts target stage next) :
    next.level.IsOrdinary := by
  cases hacts with
  | filterWindows => exact ⟨fun _ ↦ ⟨rfl, rfl⟩, fun _ ↦ rfl, fun _ ↦ rfl⟩
  | filterGroups opened groups =>
    exact ⟨h.unfinished, fun hrows ↦ absurd (groups.symm.trans hrows) (by simp), h.groups⟩
  | summarise => exact ⟨h.unfinished, nofun, nofun⟩
  | distinct | head => exact ⟨nofun, h.having, h.groups⟩
  | pick | filterRows | mutate | arrange | groupBy | ungroup | windowOrder | windowFrame |
    collapse => exact ⟨h.unfinished, h.having, h.groups⟩

theorem Plan.build_isOrdinary (target : Target) (plan : Plan) :
    Ensures (fun stage ↦ stage.level.IsOrdinary) (plan.build target) := by
  apply Plan.build_ensures fun _ stage ↦ stage.level.IsOrdinary
  · intro name columns
    exact .ofSource _ _
  · rintro plan stage _ - ⟨-⟩
    exact .ofSource _ _
  · intro plan verb stage next h hacts
    exact Stage.isOrdinary_acts h hacts
  · rintro left right type keys suffixes leftStage rightStage _ - - ⟨-, -, -⟩
    cases type <;> exact ⟨nofun, fun _ ↦ rfl, fun _ ↦ rfl⟩

section Summaries

variable {target : Target} {columns : List (String × Host.Expr)}

/-- A query that ends in a summary is compiled to one, and nothing orders it. -/
theorem Query.build_isSummary (parent : Query)
    (hplain : (Verb.summarise columns).hasPlainSummaries target.dialect = true) :
    Ensures (fun stage ↦ stage.level.IsSummary ∧ stage.order = [] ∧
      stage.Follows (parent.summarise columns).plan.outline)
      ((parent.summarise columns).build target) := by
  have hsummary : Ensures (fun stage ↦ stage.level.names.Nodup → stage.level.IsSummary)
      ((parent.summarise columns).plan.build target) := by
    refine .bind (parent.plan.build_isOrdinary target) (fun stage hstage ↦ ?_)
    refine .mono (Verb.run_leads stage (.summarise columns)) ?_
    rintro next ⟨inner, hnests, hacts⟩ hnodup
    have hinner : inner.level.IsOrdinary := Stage.isOrdinary_nests hstage hnests
    cases hacts with
    | summarise opened rows windowless apart defined =>
      have hcolumns : ∀ column ∈ columns,
          column.2.calls.any target.dialect.isWindowFunction = false := by
        simpa [Verb.hasPlainSummaries] using hplain
      have hwindows := inner.isWindowed_summary windowless
        (fun column hcolumn _ ↦ Stage.lower_isWindowed (hcolumns column hcolumn)) defined
      exact ⟨opened, rfl, hinner.having rows, (hinner.unfinished opened).1,
        (hinner.unfinished opened).2, hwindows, hnodup⟩
  rw [Query.build_eq_plan]
  refine .mono (.and ((parent.summarise columns).plan.build_follows target) hsummary) ?_
  rintro stage ⟨hfollows, hstage⟩
  exact ⟨hstage hfollows.nodup, hfollows.order, hfollows⟩

end Summaries

/-! ## Steps that do not look at warnings -/

namespace Stage

variable (target : Target)

theorem lower_steady (stage : Stage) (windowed : Bool) (more : List String) (e : Host.Expr) :
    Steady (stage.lower target windowed more e) :=
  .bind (.ofExcept _) (fun _ ↦ .ofNoted _)

theorem orderBy_steady (stage : Stage) : Steady (stage.orderBy target) :=
  .mapM (fun term ↦ .bind (stage.lower_steady target false [] term) (fun _ ↦ .pure _))

theorem wrap_steady (stage : Stage) : Steady (stage.wrap target) := by
  have horder : Steady (stage.nestedOrderBy target) := by
    unfold nestedOrderBy
    split
    · exact stage.orderBy_steady target
    · exact .pure []
  exact .bind horder (fun order ↦ .bind .nextLabel (fun label ↦ .pure _))

theorem filterRows_steady (stage : Stage) (predicate : Host.Expr) :
    Steady (stage.filterRows target predicate) := by
  have hapart : Steady (stage.lowerApart target predicate) := by
    refine .bind (stage.lower_steady target true [] predicate) (fun lowered ↦ ?_)
    split
    · refine .bind (stage.wrap_steady target) (fun nested ↦ ?_)
      exact .bind (nested.lower_steady target true [] predicate) (fun again ↦ .pure _)
    · exact .pure _
  refine .bind hapart (fun result ↦ ?_)
  dsimp only
  split
  · exact .bind (wrap_steady target _) (fun nested ↦ .pure _)
  · exact .pure _

/-! ## Filtering a summary, nested or not -/

theorem filter_ofSource (stage : Stage) (source : Sql.Source) (names : List String)
    (predicate : Host.Expr) :
    { stage with level := .ofSource source names }.filter target predicate =
      { stage with level := .ofSource source names }.filterRows target predicate := by
  have hclosed : (Level.ofSource source names).closed = false := rfl
  have hrows : (Level.ofSource source names).summarised = false := rfl
  simp [filter, wrapIf, hclosed, hrows, Level.hasWindows_ofSource]

theorem wrap_filter (stage : Stage) (predicate : Host.Expr) :
    (stage.wrap target >>= fun nested ↦ nested.filter target predicate) =
      (stage.wrap target >>= fun nested ↦ nested.filterRows target predicate) := by
  simp only [wrap, bind_assoc, pure_bind, filter_ofSource]

theorem lower_eq (stage : Stage) (windowed : Bool) (more : List String) (e : Host.Expr) :
    stage.lower target windowed more e = Compile.ofNoted
      ((Local.partialEval (stage.scope target more) e).bind
        (Lowering.lower (stage.context target windowed))) := by
  rw [lower]
  cases Local.partialEval (stage.scope target more) e <;> rfl

/-- What an expression becomes, or why it does not, whatever was compiled before. -/
theorem lower_cases (stage : Stage) (windowed : Bool) (more : List String) (e : Host.Expr) :
    (∃ error, ∀ progress, stage.lower target windowed more e progress = .error error) ∨
      ∃ lowered warnings, ∀ progress, stage.lower target windowed more e progress =
        .ok (lowered, { progress with warnings := addNew progress.warnings warnings }) := by
  rw [lower_eq]
  match (Local.partialEval (stage.scope target more) e).bind
    (Lowering.lower (stage.context target windowed)) with
  | .error error => exact .inl ⟨error, fun _ ↦ rfl⟩
  | .ok (lowered, warnings) => exact .inr ⟨lowered, warnings, fun _ ↦ rfl⟩

end Stage

/-- Does the predicate become one with windows? -/
def Outline.hasWindows (target : Target) (o : Outline) (predicate : Host.Expr) : Bool :=
  match (Local.partialEval (o.scope target []) predicate).bind
    (Lowering.lower (o.context target false)) with
  | .ok (condition, _) => condition.isWindowed
  | .error _ => false

/-- May the predicate be a condition on groups? It mentions visible columns and local bindings and
calls no aggregate. If it calls window functions, then what they mention is visible too, and their
order has no aggregates. -/
def Outline.isGroupwise (target : Target) (o : Outline) (predicate : Host.Expr) : Bool :=
  (o.scope target []).covers predicate && o.carries target true predicate &&
    !predicate.calls.any target.dialect.isAggregateFunction &&
      (!predicate.calls.any target.dialect.isWindowFunction ||
        o.windowTerms.all (fun term ↦ !term.calls.any target.dialect.isAggregateFunction))

/-- Does the predicate keep the same rows of a summary, nested or not? -/
def Outline.admits (target : Target) (o : Outline) (predicate : Host.Expr) : Bool :=
  o.hasWindows target predicate || o.isGroupwise target predicate

/-- How filtering a summary compares with filtering it after it was nested: both fail alike, both
give the same stage, or one has a condition on groups and the other one on rows. -/
inductive Stage.Compares (stage : Stage) :
    Except Error (Stage × Progress) → Except Error (Stage × Progress) → Prop
  | failed (e : Error) : Compares stage (.error e) (.error e)
  | same {next : Stage} {progress progress' : Progress}
    (count : progress.subqueries = progress'.subqueries) :
    Compares stage (.ok (next, progress)) (.ok (next, progress'))
  | grouped {condition : Sql.Expr} {label : String} {progress progress' : Progress}
    (visible : condition.Over stage.level.names true) :
    Compares stage
      (.ok ({ stage with
        level := stage.level.addHaving (stage.level.resolve true condition) }, progress))
      (.ok ({ stage with
        level := (Level.ofSource (.subquery (stage.level.toSelect []) label)
          stage.level.names).addFilter condition }, progress'))

section Filters

variable {target : Target} {stage : Stage} {o : Outline} {predicate : Host.Expr}

theorem Outline.of_isGroupwise (h : o.isGroupwise target predicate = true) :
    ((o.scope target []).covers predicate = true ∧ o.carries target true predicate = true) ∧
      (∀ function ∈ predicate.calls, target.dialect.isAggregateFunction function = false) ∧
        ((∃ function ∈ predicate.calls, target.dialect.isWindowFunction function = true) →
          ∀ term ∈ o.windowTerms, ∀ function ∈ term.calls,
            target.dialect.isAggregateFunction function = false) := by
  simp only [isGroupwise, Bool.and_eq_true, Bool.or_eq_true, Bool.not_eq_true', List.any_eq_false,
    List.all_eq_true, Bool.not_eq_true] at h
  obtain ⟨⟨hvisible, haggregate⟩, horder⟩ := h
  refine ⟨hvisible, haggregate, ?_⟩
  rintro ⟨function, hfunction, hwindow⟩
  exact horder.resolve_left fun hnone ↦ by simp [hnone function hfunction] at hwindow

/-- A predicate without aggregates becomes the same condition, nested or not. -/
theorem Stage.Follows.lower_nested (h : stage.Follows o)
    (hgroupwise : o.isGroupwise target predicate = true) (source : Sql.Source) :
    { stage with level := .ofSource source stage.level.names }.lower target true [] predicate =
      stage.lower target false [] predicate := by
  obtain ⟨-, haggregate, horder⟩ := Outline.of_isGroupwise hgroupwise
  have hscope : { stage with level := .ofSource source stage.level.names }.scope target [] =
      stage.scope target [] := by
    rw [Stage.scope, Stage.scope, Level.names_ofSource_of_nodup h.nodup]
  have hcontext : { stage with level := .ofSource source stage.level.names }.context target true =
      { stage.context target false with windowed := true } := rfl
  rw [Stage.lower, Stage.lower, hscope, hcontext]
  cases hresidual : Local.partialEval (stage.scope target []) predicate with
  | error e =>
    -- For any continuation, so that the two there are need not be compared.
    have hbind (f : Host.Expr → Compile Sql.Expr) :
        Compile.ofExcept (.error e) >>= f = Compile.fail e := rfl
    rw [hbind, hbind]
  | ok residual =>
    have hcalls := Local.partialEval_calls hresidual
    have hlower : Lowering.lower { stage.context target false with windowed := true } residual =
        Lowering.lower (stage.context target false) residual := by
      apply Lowering.lower_windowed
      · exact fun function hfunction ↦ haggregate function (hcalls function hfunction)
      · rintro ⟨function, hfunction, hwindow⟩
        rw [h.context]
        exact horder ⟨function, hcalls function hfunction, hwindow⟩
    have hbind (f : Host.Expr → Compile Sql.Expr) :
        Compile.ofExcept (.ok residual) >>= f = f residual := pure_bind residual f
    rw [hbind, hbind, hlower]

/-- A predicate with windows becomes one, whatever was compiled before. -/
theorem Stage.Follows.lower_hasWindows (h : stage.Follows o)
    (hwindows : o.hasWindows target predicate = true) :
    ∃ condition warnings, condition.isWindowed = true ∧
      ∀ progress, stage.lower target false [] predicate progress =
        .ok (condition, { progress with warnings := addNew progress.warnings warnings }) := by
  rw [Outline.hasWindows] at hwindows
  rw [Stage.lower_eq, h.scope, h.context]
  split at hwindows
  · rename_i condition warnings hlowered
    rw [hlowered]
    exact ⟨condition, warnings, hwindows, fun _ ↦ rfl⟩
  · cases hwindows

/-- At a fresh level, a predicate is a condition on rows, or one on windows. -/
theorem Stage.filterRows_ofSource (stage : Stage) (source : Sql.Source) (names : List String) :
    { stage with level := .ofSource source names }.filterRows target predicate =
      ({ stage with level := .ofSource source names }.lower target true [] predicate >>= fun c ↦
        if c.isWindowed then
          { stage with level := .ofSource source names }.hoist target c
        else pure { stage with level := (Level.ofSource source names).addFilter c }) := by
  simp [Stage.filterRows, Stage.lowerApart, Level.usesComputed_ofSource, Level.resolve_ofSource]

/-- The two outcomes of a step that starts from the same number of subqueries. -/
theorem Stage.Compares.of_steady {x : Compile Stage} (hx : Steady x) {progress progress' : Progress}
    (h : progress.subqueries = progress'.subqueries) :
    stage.Compares (x progress) (x progress') := by
  obtain ⟨e, herror, herror'⟩ | ⟨next, after, after', hok, hok', hcount⟩ := hx.twice h
  · rw [herror, herror']
    exact .failed e
  · rw [hok, hok']
    exact .same hcount

/-- A predicate with windows nests the summary. -/
theorem Stage.Compares.of_windowed {condition : Sql.Expr} {progress after : Progress}
    (hlower : stage.lower target false [] predicate progress = .ok (condition, after))
    (hcount : after.subqueries = progress.subqueries) (hwindowed : condition.isWindowed = true) :
    stage.Compares (stage.filterGroups target predicate progress)
      ((stage.wrap target >>= fun nested ↦ nested.filterRows target predicate) progress) := by
  rw [Stage.filterGroups, Compile.bind_of_ok hlower, if_pos hwindowed]
  refine .of_steady (.bind (stage.wrap_steady target) fun nested ↦ ?_) hcount
  exact nested.filterRows_steady target predicate

/-- A predicate that may be a condition on groups is one, or it nests the summary. -/
theorem Stage.Follows.compares_groupwise (h : stage.Follows o) (hsummary : stage.level.IsSummary)
    (hgroupwise : o.isGroupwise target predicate = true) (progress : Progress) :
    stage.Compares (stage.filterGroups target predicate progress)
      ((stage.wrap target >>= fun nested ↦ nested.filterRows target predicate) progress) := by
  obtain ⟨label, after, hwrap⟩ : ∃ label after, stage.wrap target progress = .ok ({ stage with
      level := .ofSource (.subquery (stage.level.toSelect []) label) stage.level.names },
        after) := by
    rw [Stage.wrap, Stage.nestedOrderBy, hsummary.limit]
    exact ⟨_, _, rfl⟩
  have hnested := h.lower_nested hgroupwise (.subquery (stage.level.toSelect []) label)
  have hcovers := (Outline.of_isGroupwise hgroupwise).1
  -- Both ways lower the predicate to the same outcome, though at different levels.
  rcases stage.lower_cases target false [] predicate with
    ⟨e, hlower⟩ | ⟨condition, warnings, hlower⟩
  · rw [Stage.filterGroups, Compile.bind_of_error (hlower progress), Compile.bind_of_ok hwrap,
      Stage.filterRows_ofSource, hnested, Compile.bind_of_error (hlower after)]
    exact .failed e
  · by_cases hwindowed : condition.isWindowed = true
    · exact .of_windowed (hlower progress) rfl hwindowed
    · have hover := h.over_of_yields hcovers.1 (Outline.carries_of_windowed hcovers.2)
        ⟨progress, _, hlower progress⟩
      rw [Stage.filterGroups, Compile.bind_of_ok (hlower progress), if_neg hwindowed,
        Compile.bind_of_ok hwrap, Stage.filterRows_ofSource, hnested,
        Compile.bind_of_ok (hlower after), if_neg hwindowed]
      exact .grouped hover

/-- Filtering a summary compares with filtering it after it was nested. -/
theorem Stage.Follows.compares (h : stage.Follows o) (hsummary : stage.level.IsSummary)
    (hadmits : o.admits target predicate = true) (progress : Progress) :
    stage.Compares (stage.filter target predicate progress)
      ((stage.wrap target >>= fun nested ↦ nested.filter target predicate) progress) := by
  have hfilter : stage.filter target predicate = stage.filterGroups target predicate := by
    simp [Stage.filter, Stage.wrapIf, hsummary.opened, hsummary.summarised]
  rw [hfilter, stage.wrap_filter target predicate]
  obtain hwindows | hgroupwise := Bool.or_eq_true_iff.1 hadmits
  · obtain ⟨condition, warnings, hwindowed, hlower⟩ := h.lower_hasWindows hwindows
    exact .of_windowed (hlower progress) rfl hwindowed
  · exact h.compares_groupwise hsummary hgroupwise progress

end Filters

/-! ## Whole queries -/

/-- The statements are the same, or they have the same rows under every engine for which the first
one is a summary without its conditions on groups and those of the second one are on single rows. -/
def Sql.SameRows (onGroups onRows : Sql.Select) : Prop :=
  onGroups = onRows ∨
    ∀ (V : Type) (E : Engine V) (tables : TableName → List (Row V)),
      E.isGrouped { onGroups with having := [] } = true →
        (∀ e ∈ onRows.filters, E.isScalar e = true) →
          E.rows tables onGroups = E.rows tables onRows

/-- Both queries fail alike, or they have the same columns and the same rows. -/
inductive Query.Compares : Except Error ((Sql.Select × List String) × Progress) →
    Except Error ((Sql.Select × List String) × Progress) → Prop
  | failed (e : Error) : Compares (.error e) (.error e)
  | compiled {onGroups onRows : Sql.Select} {names : List String} {progress progress' : Progress}
    (rows : Sql.SameRows onGroups onRows) :
    Compares (.ok ((onGroups, names), progress)) (.ok ((onRows, names), progress'))

section Queries

variable {target : Target} {stage : Stage}

/-- The statement of a stage, with the names of its columns. -/
def Stage.statement (target : Target) (stage : Stage) : Compile (Sql.Select × List String) := do
  return (stage.level.toSelect (← stage.orderBy target), stage.level.names)

theorem Stage.statement_of_unordered (horder : stage.order = []) (level : Level) :
    { stage with level }.statement target = pure (level.toSelect [], level.names) := by
  rw [Stage.statement, Stage.orderBy, Stage.liveTerms, horder]
  rfl

theorem Stage.Compares.statements (horder : stage.order = []) (hsummary : stage.level.IsSummary)
    {direct nested : Except Error (Stage × Progress)} (h : stage.Compares direct nested) :
    Query.Compares (direct.bind fun result ↦ result.1.statement target result.2)
      (nested.bind fun result ↦ result.1.statement target result.2) := by
  cases h with
  | failed e => exact .failed e
  | @same next progress progress' count =>
    have hsteady : Steady (next.statement target) :=
      .bind (next.orderBy_steady target) (fun _ ↦ .pure _)
    change Query.Compares (next.statement target progress) (next.statement target progress')
    obtain ⟨e, herror, herror'⟩ | ⟨result, _, _, hok, hok', -⟩ := hsteady.twice count
    · rw [herror, herror']
      exact .failed e
    · rw [hok, hok']
      exact .compiled (.inl rfl)
  | @grouped condition label progress progress' visible =>
    have hnames (source : Sql.Source) :
        ((Level.ofSource source stage.level.names).addFilter condition).names =
          stage.level.names := @Level.names_ofSource_of_nodup source _ hsummary.nodup
    simp only [Except.bind, Stage.statement_of_unordered horder, hnames]
    refine .compiled (.inr fun V E tables hgrouped hscalar ↦ ?_)
    have hcondition := hscalar condition List.mem_cons_self
    rw [hsummary.toSelect_addHaving, hsummary.toSelect_withoutHaving] at hgrouped
    exact hsummary.rows_having E tables label visible hcondition hgrouped

/-- The statements of filters compare as filters compare at every stage of the query below. -/
theorem Query.Compares.of_build {query : Query} {predicate : Host.Expr}
    (h : Ensures (fun stage ↦ ∀ progress, Query.Compares
      ((stage.filter target predicate >>= Stage.statement target) progress)
      (((stage.wrap target >>= fun nested ↦ nested.filter target predicate) >>=
        Stage.statement target) progress)) (query.build target)) :
    Query.Compares ((query.filter [predicate]).toSelect target {})
      ((query.collapse.filter [predicate]).toSelect target {}) := by
  have hfold (stage : Stage) : [predicate].foldlM (fun stage p ↦ stage.filter target p) stage =
      stage.filter target predicate := bind_pure _
  have hdirect : (query.filter [predicate]).toSelect target = query.build target >>= fun stage ↦
      stage.filter target predicate >>= Stage.statement target := by
    rw [Query.toSelect, Query.build, bind_assoc]
    simp only [hfold]
    rfl
  have hnested : (query.collapse.filter [predicate]).toSelect target =
      query.build target >>= fun stage ↦ (stage.wrap target >>= fun nested ↦
        nested.filter target predicate) >>= Stage.statement target := by
    rw [Query.toSelect, Query.build, Query.build, bind_assoc, bind_assoc]
    simp only [hfold, bind_assoc]
    rfl
  rw [hdirect, hnested]
  cases hbuild : query.build target {} with
  | error e =>
    rw [Compile.bind_of_error hbuild, Compile.bind_of_error hbuild]
    exact .failed e
  | ok result =>
    obtain ⟨stage, progress⟩ := result
    rw [Compile.bind_of_ok hbuild, Compile.bind_of_ok hbuild]
    exact h {} stage progress hbuild progress

end Queries

/-- A condition on the columns of a summary keeps the same rows as it does after the summary was
nested, and both ways fail alike. The condition has windows, or it has no aggregates, which would
range over the rows that are summarised. The columns of the summary have no windows, which would be
computed for the groups that are left. -/
theorem Query.having_agrees_with_subquery {target : Target} {parent : Query}
    {columns : List (String × Host.Expr)} {predicate : Host.Expr}
    (hadmits : (parent.summarise columns).plan.outline.admits target predicate = true)
    (hsummaries : (Verb.summarise columns).hasPlainSummaries target.dialect = true) :
    let direct := (parent.summarise columns).filter [predicate]
    let nested := (parent.summarise columns).collapse.filter [predicate]
    (∃ e, direct.compile target = .error e ∧ nested.compile target = .error e) ∨
      ∃ onGroups onRows names progress progress',
        (direct.toSelect target).run {} = .ok ((onGroups, names), progress) ∧
          (nested.toSelect target).run {} = .ok ((onRows, names), progress') ∧
            direct.compile target =
              .ok ⟨onGroups.render target.dialect, progress.warnings, names⟩ ∧
                nested.compile target =
                  .ok ⟨onRows.render target.dialect, progress'.warnings, names⟩ ∧
                    Sql.SameRows onGroups onRows := by
  intro direct nested
  have hcompares : Query.Compares ((direct.toSelect target).run {})
      ((nested.toSelect target).run {}) := by
    refine .of_build (.mono (Query.build_isSummary parent hsummaries) ?_)
    rintro stage ⟨hsummary, horder, hfollows⟩ progress
    exact (hfollows.compares hsummary hadmits progress).statements horder hsummary
  rw [Query.compile, Query.compile]
  generalize (direct.toSelect target).run {} = result, (nested.toSelect target).run {} = result'
    at hcompares ⊢
  cases hcompares with
  | failed e => exact .inl ⟨e, rfl, rfl⟩
  | compiled rows => exact .inr ⟨_, _, _, _, _, rfl, rfl, rfl, rfl, rows⟩

/-- The visits of each user. -/
def visits : Query := (Query.table "visits" ["user", "day", "n"]).groupBy ["user"]

def visits.totals : List (String × Host.Expr) := [("total", .call "sum" [.symbol "n"] [])]

/-- Totals above a local bound. -/
def visits.isLarge : Host.Expr := .call ">" [.symbol "total", .symbol "k"] []

def visits.target : Target where
  dialect := .ansi
  env := [("k", .ofLiteral (.integer (some 3)))]
  now := ⟨⟨2000, 1, 1⟩, 0, 0, 0⟩

open visits in
theorem Query.having_agrees_with_subquery_visits :
    (visits.summarise totals).plan.outline.admits target isLarge = true ∧
      (Verb.summarise totals).hasPlainSummaries target.dialect = true ∧
        ∃ onGroups onRows names progress progress',
          (((visits.summarise totals).filter [isLarge]).toSelect target).run {} =
            .ok ((onGroups, names), progress) ∧
              (((visits.summarise totals).collapse.filter [isLarge]).toSelect target).run {} =
                .ok ((onRows, names), progress') ∧
                  onGroups.having ≠ [] ∧ onRows.having = [] ∧
                    ∀ (V : Type) (E : Engine V) (tables : TableName → List (Row V)),
                      E.rows tables onGroups = E.rows tables onRows := by
  have hadmits : (visits.summarise totals).plan.outline.admits target isLarge = true := by
    decide +kernel
  have hsummaries : (Verb.summarise totals).hasPlainSummaries target.dialect = true := by
    decide +kernel
  obtain ⟨_, hdirect, hgroups, hhaving⟩ : ∃ result,
      (((visits.summarise totals).filter [isLarge]).toSelect target).run {} = .ok result ∧
        result.1.1.groups = [.column "user"] ∧ result.1.1.having ≠ [] :=
    ⟨_, rfl, rfl, List.cons_ne_nil _ _⟩
  obtain ⟨_, hnested, hfilters, hplain⟩ : ∃ result,
      (((visits.summarise totals).collapse.filter [isLarge]).toSelect target).run {} =
        .ok result ∧
        result.1.1.filters =
          [.binary (.column "total") .gt (.literal (.integer (some 3)))] ∧
            result.1.1.having = [] := ⟨_, rfl, rfl, rfl⟩
  refine ⟨hadmits, hsummaries, ?_⟩
  obtain ⟨e, herror, -⟩ | ⟨onGroups, onRows, _, _, _, hdirect', hnested', -, -, hrows⟩ :=
    Query.having_agrees_with_subquery hadmits hsummaries
  · rw [Query.compile, hdirect] at herror
    cases herror
  · cases hdirect.symm.trans hdirect'
    cases hnested.symm.trans hnested'
    refine ⟨_, _, _, _, _, hdirect, hnested, hhaving, hplain, fun V E tables ↦ ?_⟩
    have hgrouped : E.isGrouped { onGroups with having := [] } = true := by
      rw [Engine.isGrouped, show onGroups.groups = _ from hgroups]
      rfl
    have hscalar : ∀ e ∈ onRows.filters, E.isScalar e = true := by
      rw [hfilters, List.forall_mem_singleton]
      rfl
    exact hrows.elim (congrArg (E.rows tables)) fun hrows ↦ hrows V E tables hgrouped hscalar

end SqlVerbs
