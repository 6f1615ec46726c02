import SqlVerbs.Proofs.Query.Levels
import SqlVerbs.Proofs.Query.Outcomes
import SqlVerbs.Query.Compile

/-!
# Queries as single verbs

A query is a table, one verb after another, or a join of two queries; a verb with several
expressions counts as several verbs. What a verb can do to a stage is said here once, with all that
is known where it does it: the level may be nested first, and then the verb changes it in one of a
few ways. Whatever holds of tables and is kept by nesting, by these changes and by joins holds of
every stage that a query is compiled to.
-/

namespace SqlVerbs

open Compile (Ensures Yields)

/-- A verb on one query, with at most one condition or new column. -/
inductive Verb where
  | pick (columns : List (String × String)) (keepRest : Bool)
  | filter (predicate : Host.Expr)
  | arrange (terms : List Host.Expr)
  | mutate (name : String) (e : Host.Expr)
  | summarise (columns : List (String × Host.Expr))
  | groupBy (columns : List String)
  | ungroup
  | distinct
  | head (count : UInt64)
  | windowOrder (terms : List Host.Expr)
  | windowFrame (frame : Sql.Frame)
  | collapse

/-- What a verb does to a stage. -/
def Verb.run (target : Target) (stage : Stage) : Verb → Compile Stage
  | .pick columns keepRest => stage.pick target columns keepRest
  | .filter predicate => stage.filter target predicate
  | .arrange terms => stage.arrange target terms
  | .mutate name e => stage.mutate target name e
  | .summarise columns => stage.summarise target columns
  | .groupBy columns => stage.groupBy columns
  | .ungroup => pure { stage with groups := [] }
  | .distinct => stage.distinct target
  | .head count => stage.head target count
  | .windowOrder terms => pure { stage with windowOrder := terms }
  | .windowFrame frame => pure { stage with frame := some frame }
  | .collapse => stage.wrap target

/-- A query in single verbs. -/
inductive Plan where
  | table (name : String) (columns : List String)
  | andThen (parent : Plan) (verb : Verb)
  | join (left right : Plan) (type : JoinType) (keys : List (String × String))
    (suffixes : String × String)

namespace Plan

/-- Several verbs after a plan. -/
def andAll (plan : Plan) (verbs : List Verb) : Plan := verbs.foldl andThen plan

/-- The last stage of a plan. -/
def build (target : Target) : Plan → Compile Stage
  | .table name columns => pure (.ofTable name columns)
  | .andThen parent verb => do verb.run target (← build target parent)
  | .join left right type keys suffixes => do
    let left ← build target left
    left.join target (← build target right) type keys suffixes

theorem build_andAll (target : Target) (plan : Plan) (verbs : List Verb) :
    (plan.andAll verbs).build target =
      (plan.build target >>= fun stage ↦ verbs.foldlM (Verb.run target) stage) := by
  induction verbs generalizing plan with
  | nil => simp [andAll]
  | cons verb later ih =>
    calc (plan.andAll (verb :: later)).build target
        = ((plan.andThen verb).andAll later).build target := rfl
      _ = ((plan.andThen verb).build target >>= fun stage ↦
            later.foldlM (Verb.run target) stage) := ih (plan.andThen verb)
      _ = (plan.build target >>= fun stage ↦
            (verb :: later).foldlM (Verb.run target) stage) := by
        simp [build, List.foldlM_cons]

end Plan

namespace Query

/-- The query in single verbs. -/
def plan : Query → Plan
  | .table name columns => .table name columns
  | .pick parent columns keepRest => .andThen parent.plan (.pick columns keepRest)
  | .filter parent predicates => parent.plan.andAll (predicates.map .filter)
  | .arrange parent terms => .andThen parent.plan (.arrange terms)
  | .mutate parent columns =>
    parent.plan.andAll (columns.map fun column ↦ .mutate column.1 column.2)
  | .summarise parent columns => .andThen parent.plan (.summarise columns)
  | .groupBy parent columns => .andThen parent.plan (.groupBy columns)
  | .ungroup parent => .andThen parent.plan .ungroup
  | .join left right type keys suffixes => .join left.plan right.plan type keys suffixes
  | .distinct parent => .andThen parent.plan .distinct
  | .head parent count => .andThen parent.plan (.head count)
  | .windowOrder parent terms => .andThen parent.plan (.windowOrder terms)
  | .windowFrame parent frame => .andThen parent.plan (.windowFrame frame)
  | .collapse parent => .andThen parent.plan .collapse

theorem build_eq_plan (target : Target) (query : Query) :
    query.build target = query.plan.build target := by
  induction query with
  | table name columns => rfl
  | filter parent predicates ih =>
    rw [build, ih, plan, Plan.build_andAll]
    simp only [List.foldlM_map]
    rfl
  | mutate parent columns ih =>
    rw [build, ih, plan, Plan.build_andAll]
    simp only [List.foldlM_map]
    rfl
  | join left right type keys suffixes ihleft ihright =>
    rw [build, ihleft, ihright, plan, Plan.build]
  | pick | arrange | summarise | groupBy | ungroup | distinct | head | windowOrder | windowFrame |
    collapse => simp_all [build, plan, Plan.build, Verb.run]

end Query

/-! ## Fresh levels -/

namespace Level

variable {source : Sql.Source} {names : List String}

theorem mem_columns_ofSource {entry : String × Sql.Expr}
    (h : entry ∈ (ofSource source names).columns) :
    ∃ name ∈ names, entry = (name, .column name) := by
  obtain ⟨name, hname, rfl⟩ := List.mem_map.1 (Bindings.mem_of_mem_ofPairs h)
  exact ⟨name, hname, rfl⟩

theorem hasWindows_ofSource : (ofSource source names).hasWindows = false := by
  rw [hasWindows, Bindings.values, List.any_map, List.any_eq_false]
  intro entry hentry
  obtain ⟨name, -, rfl⟩ := mem_columns_ofSource hentry
  simp [Sql.Expr.column, Sql.Expr.isWindowed]

theorem isComputed_ofSource (name : String) : (ofSource source names).isComputed name = false := by
  unfold isComputed
  split
  · rename_i hget
    obtain ⟨_, -, heq⟩ := mem_columns_ofSource (Bindings.mem_of_get? hget)
    cases heq
    rfl
  · rfl

theorem usesComputed_ofSource (e : Sql.Expr) : (ofSource source names).usesComputed e = false := by
  simp [usesComputed, isComputed_ofSource]

end Level

/-! ## What verbs do to stages -/

namespace Stage

/-- The level became the source of a fresh one. -/
inductive Nested (target : Target) (stage : Stage) : Stage → Prop
  | mk {order : List Sql.Expr} {label : String}
    (ordered : (stage.nestedOrderBy target).Yields order) :
    Nested target stage { stage with
      level := .ofSource (.subquery (stage.level.toSelect order) label) stage.level.names }

/-- The level was nested any number of times. -/
inductive Nests (target : Target) (stage : Stage) : Stage → Prop
  | none : Nests target stage stage
  | more {between next : Stage} (nests : Nests target stage between)
    (nested : between.Nested target next) : Nests target stage next

/-- A stage that is joined with another one. -/
inductive Joined (target : Target) (type : JoinType) (keys : List (String × String))
    (suffixes : String × String) (left right : Stage) : Stage → Prop
  | mk {leftSide rightSide : Sql.Source × List String}
    (known : Join.unknownKey? left.level right.level keys = none)
    (leftMade : (Join.side target left Join.leftLabel).Yields leftSide)
    (rightMade : (Join.side target right Join.rightLabel).Yields rightSide) :
    Joined target type keys suffixes left right { left with
      level := Join.level target.dialect type keys suffixes leftSide rightSide
      order := [] }

end Stage

/-- What a verb can do to a stage, and what is known where it does it. -/
inductive Verb.Acts (target : Target) (stage : Stage) : Verb → Stage → Prop
  | pick {columns : List (String × String)} {keepRest : Bool}
    (opened : stage.level.closed = false)
    (known : ∀ column ∈ columns, column.2 ∈ stage.level.names) :
    Acts target stage (.pick columns keepRest) { stage with
      level := { stage.level with
        columns :=
          if keepRest then Stage.renamedColumns columns stage.level
          else Stage.pickedColumns columns stage.groups stage.level }
      groups := stage.groups.map (fun group ↦ (Stage.newName? columns group).getD group) }
  | filterRows {predicate : Host.Expr} {condition : Sql.Expr}
    (opened : stage.level.closed = false) (rows : stage.level.summarised = false)
    (windowless : stage.level.hasWindows = false)
    (lowered : (stage.lower target true [] predicate).Yields condition)
    (apart : stage.level.usesComputed condition = false)
    (plain : condition.isWindowed = false) :
    Acts target stage (.filter predicate)
      { stage with level := stage.level.addFilter (stage.level.resolve true condition) }
  | filterWindows {predicate : Host.Expr} {condition rest : Sql.Expr} {windows : Windows}
    {order : List Sql.Expr} {label : String}
    (opened : stage.level.closed = false) (rows : stage.level.summarised = false)
    (windowless : stage.level.hasWindows = false)
    (lowered : (stage.lower target true [] predicate).Yields condition)
    (apart : stage.level.usesComputed condition = false)
    (taken : takeWindows stage.level.names condition [] = (rest, windows))
    (ordered : ({ stage with level := stage.level.setWindows windows }.nestedOrderBy
      target).Yields order) :
    Acts target stage (.filter predicate) { stage with
      level := ((Level.ofSource
        (.subquery ((stage.level.setWindows windows).toSelect order) label)
        (stage.level.setWindows windows).names).addFilter rest).keepOnly stage.level.names }
  | filterGroups {predicate : Host.Expr} {condition : Sql.Expr}
    (opened : stage.level.closed = false) (groups : stage.level.summarised = true)
    (lowered : (stage.lower target false [] predicate).Yields condition)
    (plain : condition.isWindowed = false) :
    Acts target stage (.filter predicate)
      { stage with level := stage.level.addHaving (stage.level.resolve true condition) }
  | arrange {terms : List Host.Expr} (opened : stage.level.closed = false) :
    Acts target stage (.arrange terms) { stage with order := terms }
  | mutate {name : String} {e : Host.Expr} {lowered : Sql.Expr}
    (opened : stage.level.closed = false) (rows : stage.level.summarised = false)
    (lowers : (stage.lower target true [] e).Yields lowered)
    (apart : stage.level.usesComputed lowered = false) :
    Acts target stage (.mutate name e)
      { stage with level := stage.level.setColumn name (stage.level.resolve true lowered) }
  | summarise {columns : List (String × Host.Expr)} {summaries : Bindings Sql.Expr}
    (opened : stage.level.closed = false) (rows : stage.level.summarised = false)
    (windowless : stage.level.hasWindows = false)
    (apart : stage.summaryUsesComputed columns = false)
    (defined : (stage.summaries target [] columns).Yields summaries) :
    Acts target stage (.summarise columns) { stage with
      level := { stage.level with
        body := { stage.level.body with groups := stage.groups.map stage.groupDefinition }
        columns := Bindings.ofPairs
          (stage.groups.map (fun group ↦ (group, stage.groupDefinition group)) ++ summaries)
        summarised := true }
      groups := stage.groups.dropLast
      order := [] }
  | groupBy {columns : List String} (known : ∀ name ∈ columns, name ∈ stage.level.names) :
    Acts target stage (.groupBy columns) { stage with groups := columns }
  | ungroup : Acts target stage .ungroup { stage with groups := [] }
  | distinct (opened : stage.level.closed = false) :
    Acts target stage .distinct (stage.closeWith fun body ↦ { body with distinct := true })
  | head {count : UInt64} (opened : stage.level.closed = false) :
    Acts target stage (.head count) (stage.closeWith fun body ↦ { body with limit := some count })
  | windowOrder {terms : List Host.Expr} :
    Acts target stage (.windowOrder terms) { stage with windowOrder := terms }
  | windowFrame {frame : Sql.Frame} :
    Acts target stage (.windowFrame frame) { stage with frame := some frame }
  | collapse (opened : stage.level.closed = false) : Acts target stage .collapse stage

/-! ## Nesting -/

namespace Stage

variable {target : Target}

theorem wrap_nested (stage : Stage) : Ensures (stage.Nested target) (stage.wrap target) := by
  refine .bind (.yields _) (fun order horder ↦ .bind (.trivial _) (fun label _ ↦ .pure ?_))
  exact .mk horder

/-- After a condition is met by nesting, what it forbids is not there. -/
theorem wrapIf_nests (stage : Stage) {needed : Bool} :
    Ensures (fun next ↦ stage.Nests target next ∧
      ((∃ source names, next.level = .ofSource source names) ∨ needed = false ∧ next = stage))
      (stage.wrapIf target needed) := by
  cases needed with
  | true =>
    refine .mono stage.wrap_nested ?_
    rintro _ ⟨hordered⟩
    exact ⟨.more .none (.mk hordered), .inl ⟨_, _, rfl⟩⟩
  | false => exact .pure ⟨.none, .inr ⟨rfl, rfl⟩⟩

theorem Nests.trans {first second third : Stage} (h : first.Nests target second)
    (h' : second.Nests target third) : first.Nests target third := by
  induction h' with
  | none => exact h
  | more _ nested ih => exact .more ih nested

theorem reopen_nests (stage : Stage) :
    Ensures (fun next ↦ stage.Nests target next ∧ next.level.closed = false)
      (stage.reopen target) := by
  refine .mono stage.wrapIf_nests ?_
  rintro next ⟨hnests, ⟨source, names, hfresh⟩ | ⟨hclosed, rfl⟩⟩
  · exact ⟨hnests, by rw [hfresh]; rfl⟩
  · exact ⟨hnests, hclosed⟩

/-- A lowered expression uses no computed column of the level where it ends up. -/
theorem lowerApart_nests (stage : Stage) (e : Host.Expr) :
    Ensures (fun next ↦ stage.Nests target next.1 ∧
      (next.1.lower target true [] e).Yields next.2 ∧ next.1.level.usesComputed next.2 = false ∧
        ((∃ source names, next.1.level = .ofSource source names) ∨ next.1 = stage))
      (stage.lowerApart target e) := by
  refine .bind (.yields _) (fun lowered hlowered ↦ ?_)
  split
  · refine .bind stage.wrap_nested ?_
    rintro _ ⟨hordered⟩
    refine .bind (.yields _) (fun again hagain ↦ .pure ?_)
    exact ⟨.more .none (.mk hordered), hagain, Level.usesComputed_ofSource again, .inl ⟨_, _, rfl⟩⟩
  · rename_i hcomputed
    exact .pure ⟨.none, hlowered, by simpa using hcomputed, .inr rfl⟩

end Stage

/-! ## Every verb -/

section Verbs

variable {target : Target}

/-- The outcome of a verb: nesting, and then one of its changes. -/
def Verb.Leads (target : Target) (stage : Stage) (verb : Verb) (next : Stage) : Prop :=
  ∃ opened, stage.Nests target opened ∧ verb.Acts target opened next

theorem Verb.Leads.of_nests {stage opened next : Stage} {verb : Verb}
    (hnests : stage.Nests target opened) (h : verb.Leads target opened next) :
    verb.Leads target stage next := by
  obtain ⟨inner, hinner, hacts⟩ := h
  exact ⟨inner, hnests.trans hinner, hacts⟩

namespace Stage

theorem pick_leads (stage : Stage) (columns : List (String × String)) (keepRest : Bool) :
    Ensures (Verb.Leads target stage (.pick columns keepRest))
      (stage.pick target columns keepRest) := by
  refine .bind stage.reopen_nests ?_
  rintro opened ⟨hnests, hopen⟩
  split
  · exact .fail _
  · rename_i hknown
    have hcolumns : ∀ column ∈ columns, column.2 ∈ opened.level.names := fun column hcolumn ↦
      Level.mem_of_unknown? hknown column.2 (List.mem_map_of_mem hcolumn)
    exact .pure ⟨opened, hnests, .pick hopen hcolumns⟩

theorem mutate_leads (stage : Stage) (name : String) (e : Host.Expr) :
    Ensures (Verb.Leads target stage (.mutate name e)) (stage.mutate target name e) := by
  refine .bind stage.wrapIf_nests ?_
  rintro opened ⟨hnests, hopened⟩
  have hopen : opened.level.closed = false ∧ opened.level.summarised = false := by
    obtain ⟨source, names, hfresh⟩ | ⟨hneeded, rfl⟩ := hopened
    · rw [hfresh]
      exact ⟨rfl, rfl⟩
    · simpa using hneeded
  refine .bind (opened.lowerApart_nests e) ?_
  rintro ⟨apart, lowered⟩ ⟨hapart, hlowered, hcomputed, hlevel⟩
  have hopen' : apart.level.closed = false ∧ apart.level.summarised = false := by
    obtain ⟨source, names, hfresh⟩ | rfl := hlevel
    · rw [hfresh]
      exact ⟨rfl, rfl⟩
    · exact hopen
  exact .pure ⟨apart, hnests.trans hapart, .mutate hopen'.1 hopen'.2 hlowered hcomputed⟩

theorem hoist_leads {stage : Stage} {predicate : Host.Expr} {condition : Sql.Expr}
    (hopen : stage.level.closed = false) (hrows : stage.level.summarised = false)
    (hwindows : stage.level.hasWindows = false)
    (hlowered : (stage.lower target true [] predicate).Yields condition)
    (hcomputed : stage.level.usesComputed condition = false) :
    Ensures (Verb.Leads target stage (.filter predicate)) (stage.hoist target condition) := by
  unfold Stage.hoist
  dsimp only
  obtain ⟨rest, windows, htaken⟩ :
      ∃ rest windows, takeWindows stage.level.names condition [] = (rest, windows) := ⟨_, _, rfl⟩
  rw [htaken]
  refine .bind (wrap_nested _) ?_
  rintro _ ⟨hordered⟩
  exact .pure ⟨stage, .none,
    .filterWindows hopen hrows hwindows hlowered hcomputed htaken hordered⟩

theorem filterRows_leads {stage : Stage} (hopen : stage.level.closed = false)
    (hrows : stage.level.summarised = false) (hwindows : stage.level.hasWindows = false)
    (predicate : Host.Expr) :
    Ensures (Verb.Leads target stage (.filter predicate)) (stage.filterRows target predicate) := by
  refine .bind (stage.lowerApart_nests predicate) ?_
  rintro ⟨apart, condition⟩ ⟨hnests, hlowered, hcomputed, hlevel⟩
  obtain ⟨hopen', hrows', hwindows'⟩ : apart.level.closed = false ∧
      apart.level.summarised = false ∧ apart.level.hasWindows = false := by
    obtain ⟨source, names, hfresh⟩ | rfl := hlevel
    · rw [hfresh]
      exact ⟨rfl, rfl, Level.hasWindows_ofSource⟩
    · exact ⟨hopen, hrows, hwindows⟩
  dsimp only
  split
  · refine .mono (hoist_leads hopen' hrows' hwindows' hlowered hcomputed) ?_
    intro next hnext
    exact hnext.of_nests hnests
  · rename_i hplain
    exact .pure ⟨apart, hnests, .filterRows hopen' hrows' hwindows' hlowered hcomputed
      (by simpa using hplain)⟩

theorem filterGroups_leads {stage : Stage} (hopen : stage.level.closed = false)
    (hgroups : stage.level.summarised = true) (predicate : Host.Expr) :
    Ensures (Verb.Leads target stage (.filter predicate))
      (stage.filterGroups target predicate) := by
  refine .bind (.yields _) ?_
  intro condition hlowered
  split
  · refine .bind stage.wrap_nested ?_
    rintro _ ⟨hordered⟩
    refine .mono (filterRows_leads rfl rfl Level.hasWindows_ofSource predicate) ?_
    intro next hnext
    exact hnext.of_nests (.more .none (.mk hordered))
  · rename_i hplain
    exact .pure ⟨stage, .none, .filterGroups hopen hgroups hlowered (by simpa using hplain)⟩

theorem filter_leads (stage : Stage) (predicate : Host.Expr) :
    Ensures (Verb.Leads target stage (.filter predicate)) (stage.filter target predicate) := by
  refine .bind stage.wrapIf_nests ?_
  rintro opened ⟨hnests, hopened⟩
  obtain ⟨hopen, hwindows⟩ : opened.level.closed = false ∧
      (opened.level.summarised = false → opened.level.hasWindows = false) := by
    obtain ⟨source, names, hfresh⟩ | ⟨hneeded, rfl⟩ := hopened
    · rw [hfresh]
      exact ⟨rfl, fun _ ↦ Level.hasWindows_ofSource⟩
    · simp only [Bool.or_eq_false_iff, Bool.and_eq_false_iff, Bool.not_eq_false'] at hneeded
      refine ⟨hneeded.1, fun hrows ↦ ?_⟩
      simpa [hrows] using hneeded.2
  split
  · rename_i hgroups
    refine .mono (filterGroups_leads hopen hgroups predicate) ?_
    intro next hnext
    exact hnext.of_nests hnests
  · rename_i hgroups
    have hrows : opened.level.summarised = false := by simpa using hgroups
    refine .mono (filterRows_leads hopen hrows (hwindows hrows) predicate) ?_
    intro next hnext
    exact hnext.of_nests hnests

theorem summarise_leads (stage : Stage) (columns : List (String × Host.Expr)) :
    Ensures (Verb.Leads target stage (.summarise columns)) (stage.summarise target columns) := by
  refine .bind stage.wrapIf_nests ?_
  rintro opened ⟨hnests, hopened⟩
  obtain ⟨⟨⟨hopen, hrows⟩, hwindows⟩, hcomputed⟩ : ((opened.level.closed = false ∧
      opened.level.summarised = false) ∧ opened.level.hasWindows = false) ∧
        opened.summaryUsesComputed columns = false := by
    obtain ⟨source, names, hfresh⟩ | ⟨hneeded, rfl⟩ := hopened
    · rw [summaryUsesComputed, hfresh]
      refine ⟨⟨⟨rfl, rfl⟩, Level.hasWindows_ofSource⟩, ?_⟩
      simp [Level.isComputed_ofSource]
    · simpa only [Bool.or_eq_false_iff] using hneeded
  refine .bind (.yields _) ?_
  intro summaries hsummaries
  refine .pure ?_
  have hacts := Verb.Acts.summarise hopen hrows hwindows hcomputed hsummaries
  refine ⟨opened, hnests, ?_⟩
  simpa [Function.comp_def] using hacts

theorem groupBy_leads (stage : Stage) (columns : List String) :
    Ensures (Verb.Leads target stage (.groupBy columns)) (stage.groupBy columns) := by
  unfold Stage.groupBy
  split
  · exact .fail _
  · rename_i hknown
    exact .pure ⟨stage, .none, .groupBy (Level.mem_of_unknown? hknown)⟩

end Stage

/-- Every verb nests the level as often as it has to, and then makes one of its changes. -/
theorem Verb.run_leads (stage : Stage) (verb : Verb) :
    Ensures (verb.Leads target stage) (verb.run target stage) := by
  have hreopened {change : Stage → Stage} {verb : Verb}
      (hacts : ∀ opened : Stage, opened.level.closed = false →
        verb.Acts target opened (change opened)) :
      Ensures (verb.Leads target stage) (stage.reopen target >>= fun opened ↦
        pure (change opened)) := by
    refine .bind stage.reopen_nests ?_
    rintro opened ⟨hnests, hopen⟩
    exact .pure ⟨opened, hnests, hacts opened hopen⟩
  cases verb with
  | pick columns keepRest => exact stage.pick_leads columns keepRest
  | filter predicate => exact stage.filter_leads predicate
  | arrange terms => exact hreopened (fun _ hopen ↦ .arrange hopen)
  | mutate name e => exact stage.mutate_leads name e
  | summarise columns => exact stage.summarise_leads columns
  | groupBy columns => exact stage.groupBy_leads columns
  | ungroup => exact .pure ⟨stage, .none, .ungroup⟩
  | distinct => exact hreopened (fun _ hopen ↦ .distinct hopen)
  | head count => exact hreopened (fun _ hopen ↦ .head hopen)
  | windowOrder terms => exact .pure ⟨stage, .none, .windowOrder⟩
  | windowFrame frame => exact .pure ⟨stage, .none, .windowFrame⟩
  | collapse =>
    refine .mono stage.wrap_nested ?_
    rintro _ ⟨hordered⟩
    exact ⟨_, .more .none (.mk hordered), .collapse rfl⟩

theorem Stage.join_joined (left right : Stage) (type : JoinType) (keys : List (String × String))
    (suffixes : String × String) :
    Ensures (Stage.Joined target type keys suffixes left right)
      (left.join target right type keys suffixes) := by
  unfold Stage.join
  split
  · exact .fail _
  · rename_i hknown
    refine .bind (.yields _) ?_
    intro leftSide hleft
    refine .bind (.yields _) ?_
    intro rightSide hright
    exact .pure (.mk hknown hleft hright)

end Verbs

/-- What holds of tables, and is kept by nesting, by the changes of verbs and by joins, holds of
every stage. -/
theorem Plan.build_ensures {target : Target} (holds : Plan → Stage → Prop)
    (table : ∀ name columns, holds (.table name columns) (.ofTable name columns))
    (nested : ∀ plan stage next, holds plan stage → stage.Nested target next → holds plan next)
    (acts : ∀ plan verb stage next, holds plan stage → Verb.Acts target stage verb next →
      holds (plan.andThen verb) next)
    (joined : ∀ left right type keys suffixes leftStage rightStage next, holds left leftStage →
      holds right rightStage →
        Stage.Joined target type keys suffixes leftStage rightStage next →
          holds (.join left right type keys suffixes) next)
    (plan : Plan) : Ensures (holds plan) (plan.build target) := by
  induction plan with
  | table name columns => exact .pure (table name columns)
  | andThen parent verb ih =>
    refine .bind ih ?_
    intro stage hstage
    have hopened (opened : Stage) (h : stage.Nests target opened) : holds parent opened := by
      induction h with
      | none => exact hstage
      | more _ hnested ihnests => exact nested parent _ _ ihnests hnested
    refine .mono (Verb.run_leads stage verb) ?_
    rintro next ⟨opened, hnests, hacts⟩
    exact acts parent verb opened next (hopened opened hnests) hacts
  | join left right type keys suffixes ihleft ihright =>
    refine .bind ihleft ?_
    intro leftStage hleft
    refine .bind ihright ?_
    intro rightStage hright
    refine .mono (leftStage.join_joined rightStage type keys suffixes) ?_
    intro next hjoined
    exact joined _ _ _ _ _ _ _ next hleft hright hjoined

end SqlVerbs
