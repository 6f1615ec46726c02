import Mathlib.Logic.Relation
import SqlVerbs.Dialect.Registry
import SqlVerbs.Proofs.Lowering.Windowing
import SqlVerbs.Proofs.Query.Comparison
import SqlVerbs.Proofs.Query.Outlines

/-!
# Frozen statements

After a limit, after dropping repeated rows and after a join, the statement so far is finished.
Every later verb reads from it and leaves it as it is, so that it stands somewhere in the final
statement just as it would be if the query had ended there. Its subqueries may have other numbers,
and it may have lost its order, but not if it has a limit.
-/

namespace SqlVerbs

open Compile (Ensures Yields)
open Sql (SelectFrom)

namespace Sql

/-- The same source of rows, except that subqueries are counted from another number on. -/
inductive Source.Renumbered (d : Dialect) (shift : Nat) : Source → Source → Prop
  | table (name : TableName) (label : Option String) :
    Renumbered d shift (.table name label) (.table name label)
  | side {select select' : SelectFrom Source} {label : String}
    (h : SelectFrom.Alike d (Source.Renumbered d shift) select select')
    (isSide : label ∈ [Join.leftLabel, Join.rightLabel]) :
    Renumbered d shift (.subquery select label) (.subquery select' label)
  | numbered {select select' : SelectFrom Source} (n : Nat)
    (h : SelectFrom.Alike d (Source.Renumbered d shift) select select') :
    Renumbered d shift (.subquery select (Compile.numbered "q" n))
      (.subquery select' (Compile.numbered "q" (n + shift)))

/-- The same statement, except that subqueries are counted from another number on. -/
def SelectFrom.Renumbered (d : Dialect) (shift : Nat) : Select → Select → Prop :=
  SelectFrom.Alike d (Source.Renumbered d shift)

/-- A statement nests another one: in its `FROM` clause, in a join, or in the condition of a semi or
an anti join. -/
def SelectFrom.Nests (d : Dialect) (outer inner : Select) : Prop :=
  (∃ label, outer.source = .subquery inner label) ∨
    (∃ join ∈ outer.joins, ∃ label, join.source = .subquery inner label) ∨
      ∃ negated label keys, Join.existence d negated (.subquery inner label) keys ∈ outer.filters

/-- A statement is another one, or has it somewhere inside. -/
def SelectFrom.Contains (d : Dialect) : Select → Select → Prop :=
  Relation.ReflTransGen (SelectFrom.Nests d)

/-- What a statement nests stays there if conditions are added. -/
theorem SelectFrom.Nests.mono {d : Dialect} {outer outer' inner : Select}
    (h : outer.Nests d inner) (hsource : outer'.source = outer.source)
    (hjoins : outer'.joins = outer.joins) (hfilters : outer.filters ⊆ outer'.filters) :
    outer'.Nests d inner := by
  rw [Nests, hsource, hjoins]
  refine h.imp_right (Or.imp_right ?_)
  rintro ⟨negated, label, keys, hcondition⟩
  exact ⟨negated, label, keys, hfilters hcondition⟩

end Sql

/-! ## Compiling after other subqueries -/

/-- A compilation from the start against one after some subqueries. -/
def Comparison.ofShift (target : Target) (shift : Nat) : Comparison where
  target
  strict := target.strict
  strict' := target.strict
  stops _ := False
  meets progress progress' := progress'.subqueries = progress.subqueries + shift
  alike := Sql.Source.Renumbered target.dialect shift
  allows _ := True
  meets_warned h _ := h
  meets_counted h := by
    change _ + 1 = _ + 1 + shift
    omega
  alike_table := .table
  eq_table_iff h name label := by cases h <;> simp
  alike_side h _ hlabel := .side h hlabel
  alike_numbered h progress progress' hmeets := by
    have hcount : progress'.subqueries + 1 = progress.subqueries + 1 + shift := by omega
    rw [hcount]
    exact .numbered _ h
  allows_residual _ _ := trivial
  lower _ _ _ := .refl _

/-- Alone and after some subqueries, a plan fails alike or is compiled to the same. -/
theorem Plan.build_shift (target : Target) (plan : Plan) (progress : Progress) :
    StopsOr (fun _ ↦ False) (fun result result' ↦
      result.1.Alike (.ofShift target progress.subqueries) result'.1 ∧
        result'.2.subqueries = result.2.subqueries + progress.subqueries)
      (plan.build target {}) (plan.build target progress) :=
  @build_relates (.ofShift target progress.subqueries) plan (fun _ _ ↦ trivial) {} progress
    (Nat.zero_add _).symm

/-- A plan that is compiled after some subqueries is compiled to the same when it is alone. -/
theorem Plan.build_alone {target : Target} {plan : Plan} {progress after : Progress} {stage : Stage}
    (h : plan.build target progress = .ok (stage, after)) :
    ∃ alone after', plan.build target {} = .ok (alone, after') ∧
      alone.Alike (.ofShift target progress.subqueries) stage := by
  have hrun := plan.build_shift target progress
  rw [h] at hrun
  generalize plan.build target {} = x at hrun
  cases hrun with
  | stopped h => exact h.elim
  | @done result _ h => exact ⟨result.1, result.2, rfl, h.1⟩

/-- A plan that is compiled alone is compiled to the same after any subqueries. -/
theorem Plan.build_later {target : Target} {plan : Plan} {after : Progress} {alone : Stage}
    (h : plan.build target {} = .ok (alone, after)) (progress : Progress) :
    ∃ stage after', plan.build target progress = .ok (stage, after') ∧
      alone.Alike (.ofShift target progress.subqueries) stage := by
  have hrun := plan.build_shift target progress
  rw [h] at hrun
  generalize plan.build target progress = x at hrun
  cases hrun with
  | @done _ result h => exact ⟨result.1, result.2, rfl, h.1⟩

/-! ## Queries that freeze their statement -/

namespace Query

/-- The queries that the last verb is applied to. -/
def parents : Query → List Query
  | .table _ _ => []
  | .pick parent _ _ | .filter parent _ | .arrange parent _ | .mutate parent _ |
    .summarise parent _ | .groupBy parent _ | .ungroup parent | .distinct parent |
    .head parent _ | .windowOrder parent _ | .windowFrame parent _ | .collapse parent => [parent]
  | .join left right _ _ _ => [left, right]

/-- Any number of verbs, joins included, make the other query of the first one. -/
inductive LeadsTo (part : Query) : Query → Prop
  | refl : LeadsTo part part
  | more {parent query : Query} (h : LeadsTo part parent) (hparent : parent ∈ query.parents) :
    LeadsTo part query

/-- Does the query end with a limit, with dropping repeated rows or with a join? -/
def freezes : Query → Bool
  | .distinct _ | .head _ _ | .join _ _ _ _ _ => true
  | _ => false

end Query

/-- Any number of verbs, joins included, make the other plan of the first one. -/
inductive Plan.LeadsTo (part : Plan) : Plan → Prop
  | refl : LeadsTo part part
  | andThen {parent : Plan} (h : LeadsTo part parent) (verb : Verb) :
    LeadsTo part (.andThen parent verb)
  | left {left : Plan} (h : LeadsTo part left) (right : Plan) (type : JoinType)
    (keys : List (String × String)) (suffixes : String × String) :
    LeadsTo part (.join left right type keys suffixes)
  | right (left : Plan) {right : Plan} (h : LeadsTo part right) (type : JoinType)
    (keys : List (String × String)) (suffixes : String × String) :
    LeadsTo part (.join left right type keys suffixes)

theorem Plan.LeadsTo.andAll {part plan : Plan} (h : part.LeadsTo plan) (verbs : List Verb) :
    part.LeadsTo (plan.andAll verbs) := by
  induction verbs generalizing plan with
  | nil => exact h
  | cons verb later ih => exact ih (h.andThen verb)

theorem Query.LeadsTo.plan {part query : Query} (h : part.LeadsTo query) :
    part.plan.LeadsTo query.plan := by
  induction h with
  | refl => exact .refl
  | @more parent query _ hparent ih =>
    cases query with
    | table => cases hparent
    | filter | mutate =>
      obtain rfl := List.mem_singleton.1 hparent
      exact ih.andAll _
    | join left right type keys suffixes =>
      obtain rfl | hright := List.mem_cons.1 hparent
      · exact .left ih right.plan type keys suffixes
      · obtain rfl := List.mem_singleton.1 hright
        exact .right left.plan ih type keys suffixes
    | pick | arrange | summarise | groupBy | ungroup | distinct | head | windowOrder | windowFrame |
      collapse =>
      obtain rfl := List.mem_singleton.1 hparent
      exact ih.andThen _

/-- The level is closed, and more than a table. -/
structure Level.IsSealed (level : Level) : Prop where
  closed : level.closed = true
  notBare : ∀ name, ¬level.ReadsTable name

theorem Level.isSealed_join {d : Dialect} {type : JoinType} {keys : List (String × String)}
    {suffixes : String × String} {left right : Sql.Source × List String} :
    (Join.level d type keys suffixes left right).IsSealed := by
  cases type with
  | semi | anti => exact ⟨rfl, fun name h ↦ nomatch h.filters⟩
  | inner | left | right | full => exact ⟨rfl, fun name h ↦ nomatch h.joins⟩

theorem Query.build_isSealed (target : Target) {query : Query} (h : query.freezes = true) :
    Ensures (fun stage ↦ stage.level.IsSealed) (query.plan.build target) := by
  cases query with
  | distinct parent =>
    refine .bind (.trivial _) fun stage _ ↦ .bind (.trivial _) fun opened _ ↦ .pure ?_
    exact ⟨rfl, fun name h ↦ nomatch h.distinct⟩
  | head parent count =>
    refine .bind (.trivial _) fun stage _ ↦ .bind (.trivial _) fun opened _ ↦ .pure ?_
    exact ⟨rfl, fun name h ↦ nomatch h.limit⟩
  | join left right type keys suffixes =>
    refine .bind (.trivial _) fun left _ ↦ .bind (.trivial _) fun right _ ↦ ?_
    refine .mono (left.join_joined right type keys suffixes) ?_
    rintro _ ⟨-, -, -⟩
    exact Level.isSealed_join
  | table | pick | filter | arrange | mutate | summarise | groupBy | ungroup | windowOrder |
    windowFrame | collapse => cases h

/-! ## What becomes of a frozen statement -/

/-- A frozen level has this order: that of its stage, if it has a limit and no term calls a window
function. -/
def Stage.FixesOrder (target : Target) (stage : Stage) (order : List Sql.Expr) : Prop :=
  stage.level.body.limit.isSome = true →
    (∀ term ∈ stage.order, ∀ function ∈ term.calls,
      target.dialect.isWindowFunction function = false) →
        (stage.orderBy target).Yields order

/-- The frozen level is the level of the stage, or it is inside of that. -/
inductive Stage.Keeps (target : Target) (frozen stage : Stage) : Prop
  | here (level : stage.level = frozen.level) (order : stage.order = frozen.order)
  | inside {inner : Sql.Select} {order : List Sql.Expr} (fixed : frozen.FixesOrder target order)
    (nests : stage.level.body.Nests target.dialect inner)
    (contains : inner.Contains target.dialect (frozen.level.toSelect order))

section Steps

variable {target : Target} {frozen stage next : Stage}

/-- Without window functions, an ordering term depends on the names of the level only. -/
theorem Stage.lower_congr (hlevel : stage.level = frozen.level) {term : Host.Expr}
    (hplain : ∀ function ∈ term.calls, target.dialect.isWindowFunction function = false) :
    stage.lower target false [] term = frozen.lower target false [] term := by
  have hscope : stage.scope target [] = frozen.scope target [] := by
    rw [scope, scope, hlevel]
  rw [lower, lower, hscope]
  refine Compile.ofExcept_bind_congr fun residual hresidual ↦ congrArg Compile.ofNoted ?_
  refine Lowering.lower_unwindowed (by rfl) (by rfl) (by rfl) (by rfl) fun function hfunction ↦ ?_
  exact hplain function (Local.partialEval_calls hresidual function hfunction)

theorem Stage.orderBy_congr (hlevel : stage.level = frozen.level)
    (horder : stage.order = frozen.order)
    (hplain : ∀ term ∈ frozen.order, ∀ function ∈ term.calls,
      target.dialect.isWindowFunction function = false) :
    stage.orderBy target = frozen.orderBy target := by
  have hlive : stage.liveTerms target = frozen.liveTerms target := by
    unfold liveTerms knows
    rw [hlevel, horder]
  rw [orderBy, orderBy, hlive, hlevel]
  refine Compile.mapM_congr fun term hterm ↦ ?_
  rw [lower_congr hlevel (hplain term (List.mem_of_mem_filter hterm))]

theorem Stage.fixesOrder_of_nested {order : List Sql.Expr}
    (h : (stage.nestedOrderBy target).Yields order) : stage.FixesOrder target order := by
  intro hlimit _
  simpa [nestedOrderBy, hlimit] using h

/-- A statement of the stage contains the frozen one. -/
theorem Stage.Keeps.toSelect (h : frozen.Keeps target stage) {order : List Sql.Expr}
    (horder : stage.FixesOrder target order) :
    ∃ order', frozen.FixesOrder target order' ∧
      (stage.level.toSelect order).Contains target.dialect (frozen.level.toSelect order') := by
  cases h with
  | here hlevel hterms =>
    refine ⟨order, fun hlimit hplain ↦ ?_, hlevel ▸ .refl⟩
    rw [← orderBy_congr hlevel hterms hplain]
    exact horder (hlevel ▸ hlimit) (hterms ▸ hplain)
  | inside fixed nests contains =>
    exact ⟨_, fixed, .head (nests.mono rfl rfl (List.Subset.refl _)) contains⟩

theorem Stage.Keeps.nested (h : frozen.Keeps target stage) (hnested : stage.Nested target next) :
    frozen.Keeps target next := by
  obtain ⟨hordered⟩ := hnested
  obtain ⟨order', fixed, contains⟩ := h.toSelect (fixesOrder_of_nested hordered)
  exact .inside fixed (.inl ⟨_, rfl⟩) contains

/-- Only a limit keeps the order of a nested level. -/
theorem Stage.order_of_nested {order : List Sql.Expr}
    (h : (stage.nestedOrderBy target).Yields order) (hlimit : stage.level.body.limit = none) :
    order = [] := by
  rw [nestedOrderBy, hlimit] at h
  obtain ⟨_, _, ⟨⟩⟩ := h
  rfl

/-- A change keeps what the level nests and may add conditions, or it nests the level, possibly with
other columns. -/
theorem Verb.Acts.body {verb : Verb} (h : verb.Acts target stage next) :
    (next.level.body.source = stage.level.body.source ∧
      next.level.body.joins = stage.level.body.joins ∧
        stage.level.body.filters ⊆ next.level.body.filters) ∨
    ∃ columns order label,
      next.level.body.source = .subquery ({ stage.level with columns }.toSelect order) label ∧
        next.level.body.joins = [] ∧ (stage.level.body.limit = none → order = []) := by
  cases h with
  | filterRows => exact .inl ⟨rfl, rfl, List.subset_append_left _ _⟩
  | filterGroups => exact .inl ⟨rfl, rfl, List.Subset.refl _⟩
  | @filterWindows predicate condition rest windows order label opened rows windowless lowered apart
      taken ordered =>
    refine .inr ⟨(stage.level.setWindows windows).columns, order, label, ?_, rfl, fun hlimit ↦ ?_⟩
    · rw [← stage.level.setWindows_eq]
      rfl
    · refine Stage.order_of_nested ordered ?_
      rw [Level.body_setWindows]
      exact hlimit
  | pick | arrange | mutate | summarise | groupBy | ungroup | distinct | head | windowOrder |
    windowFrame | collapse => exact .inl ⟨rfl, rfl, List.Subset.refl _⟩

theorem Stage.Keeps.acts (hsealed : frozen.level.IsSealed) (h : frozen.Keeps target stage)
    {verb : Verb} (hacts : verb.Acts target stage next) : frozen.Keeps target next := by
  cases h with
  | here hlevel hterms =>
    -- The level is closed, so that only what outlives it can change.
    have hopen (hopened : stage.level.closed = false) : frozen.Keeps target next := by
      rw [hlevel, hsealed.closed] at hopened
      cases hopened
    cases hacts with
    | groupBy | ungroup | windowOrder | windowFrame => exact .here hlevel hterms
    | pick | filterRows | filterWindows | filterGroups | arrange | mutate | summarise | distinct |
      head | collapse => exact hopen ‹_›
  | inside fixed nests contains =>
    obtain ⟨hsource, hjoins, hfilters⟩ | ⟨columns, order, label, hsource, -, -⟩ := hacts.body
    · exact .inside fixed (nests.mono hsource hjoins hfilters) contains
    · refine .inside fixed (.inl ⟨label, hsource⟩) (.head ?_ contains)
      exact nests.mono rfl rfl (List.Subset.refl _)

/-! ## Joins -/

theorem Stage.Keeps.side (hsealed : frozen.level.IsSealed) (h : frozen.Keeps target stage)
    (label : String) :
    Ensures (fun side ↦ ∃ select order, side.1 = .subquery select label ∧
      frozen.FixesOrder target order ∧
        select.Contains target.dialect (frozen.level.toSelect order))
      (Join.side target stage label) := by
  have hbare (name : Sql.TableName) : stage.level.bareTable? ≠ some name := by
    intro hname
    have htable := Level.readsTable_of_bareTable? hname
    cases h with
    | here hlevel _ => exact hsealed.notBare name (hlevel ▸ htable)
    | inside _ nests _ =>
      obtain ⟨label, hsource⟩ | ⟨join, hjoin, -⟩ | ⟨negated, label, keys, hfilter⟩ := nests
      · rw [htable.source] at hsource
        cases hsource
      · rw [htable.joins] at hjoin
        cases hjoin
      · rw [htable.filters] at hfilter
        cases hfilter
  unfold Join.side
  split
  · rename_i hname
    exact (hbare _ hname).elim
  · refine .bind (.yields _) fun order hordered ↦ .pure ?_
    obtain ⟨order', fixed, contains⟩ := h.toSelect (fixesOrder_of_nested hordered)
    exact ⟨_, order', rfl, fixed, contains⟩

/-- The statement of a join reads both sides. -/
theorem Join.nests_level {d : Dialect} {type : JoinType} {keys : List (String × String)}
    {suffixes : String × String} {left right : Sql.Source × List String} {select : Sql.Select}
    {label : String} (h : left.1 = .subquery select label ∨ right.1 = .subquery select label) :
    (Join.level d type keys suffixes left right).body.Nests d select := by
  obtain hleft | hright := h
  · refine .inl ⟨label, ?_⟩
    cases type <;> exact hleft
  · refine .inr ?_
    cases type with
    | semi => exact .inr ⟨false, label, keys, hright ▸ List.mem_cons_self⟩
    | anti => exact .inr ⟨true, label, keys, hright ▸ List.mem_cons_self⟩
    | inner | left | right | full => exact .inl ⟨_, List.mem_cons_self, label, hright⟩

theorem Stage.Keeps.joined (hsealed : frozen.level.IsSealed) {left right : Stage}
    (h : frozen.Keeps target left ∨ frozen.Keeps target right) {type : JoinType}
    {keys : List (String × String)} {suffixes : String × String}
    (hjoined : Stage.Joined target type keys suffixes left right next) :
    frozen.Keeps target next := by
  obtain @⟨leftSide, rightSide, -, hleftMade, hrightMade⟩ := hjoined
  obtain hleft | hright := h
  · obtain ⟨select, order, hside, fixed, contains⟩ :=
      (hleft.side hsealed Join.leftLabel).of_yields hleftMade
    exact .inside fixed (Join.nests_level (.inl hside)) contains
  · obtain ⟨select, order, hside, fixed, contains⟩ :=
      (hright.side hsealed Join.rightLabel).of_yields hrightMade
    exact .inside fixed (Join.nests_level (.inr hside)) contains

end Steps

/-- Wherever a plan leads to, its frozen level is kept. -/
theorem Plan.build_keeps {target : Target} {part plan : Plan} (h : part.LeadsTo plan)
    (hsealed : Ensures (fun stage ↦ stage.level.IsSealed) (part.build target)) :
    Ensures (fun stage ↦ ∃ frozen, (part.build target).Yields frozen ∧ frozen.Keeps target stage)
      (plan.build target) := by
  induction h with
  | refl => exact .mono (.yields _) fun stage hstage ↦ ⟨stage, hstage, .here rfl rfl⟩
  | andThen _ verb ih =>
    refine .bind ih ?_
    rintro stage ⟨frozen, hfrozen, hkeeps⟩
    refine .mono (Verb.run_leads stage verb) ?_
    rintro next ⟨opened, hnests, hacts⟩
    have hopened : frozen.Keeps target opened := by
      clear hacts
      induction hnests with
      | none => exact hkeeps
      | more _ hnested ihnests => exact ihnests.nested hnested
    exact ⟨frozen, hfrozen, hopened.acts (hsealed.of_yields hfrozen) hacts⟩
  | left _ right type keys suffixes ih =>
    refine .bind ih ?_
    rintro left ⟨frozen, hfrozen, hkeeps⟩
    refine .bind (.trivial _) fun right _ ↦ .mono (left.join_joined right type keys suffixes) ?_
    intro next hjoined
    exact ⟨frozen, hfrozen, .joined (hsealed.of_yields hfrozen) (.inl hkeeps) hjoined⟩
  | right left _ type keys suffixes ih =>
    refine .bind (.trivial _) fun left _ ↦ .bind ih ?_
    rintro right ⟨frozen, hfrozen, hkeeps⟩
    refine .mono (left.join_joined right type keys suffixes) fun next hjoined ↦ ?_
    exact ⟨frozen, hfrozen, .joined (hsealed.of_yields hfrozen) (.inr hkeeps) hjoined⟩

/-! ## The order of nested statements -/

/-- The statement has an order only if it has a limit. -/
def Sql.SelectFrom.OrdersForLimit (select : Sql.Select) : Prop :=
  select.order ≠ [] → select.limit ≠ none

/-- All nested statements have an order only if they have a limit. -/
def Level.NestsForLimit (level : Level) : Prop :=
  ∀ s ∈ level.body.sources, s.OrdersForLimit

section Limits

variable {target : Target} {stage next : Stage}

theorem Level.NestsForLimit.toSelect {level : Level} (h : level.NestsForLimit)
    {order : List Sql.Expr} (horder : level.body.limit = none → order = []) :
    ∀ s ∈ Sql.statementsOf (level.toSelect order), s.OrdersForLimit := by
  rw [Sql.statementsOf_eq, List.forall_mem_cons]
  exact ⟨fun hordered hlimit ↦ hordered (horder hlimit), h⟩

theorem Level.nestsForLimit_of_subquery {level : Level} {select : Sql.Select} {label : String}
    (hsource : level.body.source = .subquery select label) (hjoins : level.body.joins = [])
    (h : ∀ s ∈ Sql.statementsOf select, s.OrdersForLimit) : level.NestsForLimit := by
  rw [NestsForLimit, Sql.SelectFrom.sources, hsource, hjoins]
  simpa [Sql.Source.statements, Sql.statementsOfJoins] using h

theorem Stage.nestsForLimit_nested (h : stage.level.NestsForLimit)
    (hnested : stage.Nested target next) : next.level.NestsForLimit := by
  obtain ⟨hordered⟩ := hnested
  exact Level.nestsForLimit_of_subquery rfl rfl (h.toSelect (order_of_nested hordered))

theorem Stage.nestsForLimit_acts (h : stage.level.NestsForLimit) {verb : Verb}
    (hacts : verb.Acts target stage next) : next.level.NestsForLimit := by
  obtain ⟨hsource, hjoins, -⟩ | ⟨columns, order, label, hsource, hjoins, horder⟩ := hacts.body
  · rw [Level.NestsForLimit, Sql.SelectFrom.sources, hsource, hjoins]
    exact h
  · have hnested : { stage.level with columns }.NestsForLimit := h
    exact Level.nestsForLimit_of_subquery hsource hjoins (hnested.toSelect horder)

theorem Join.side_ordersForLimit (h : stage.level.NestsForLimit) (label : String) :
    Ensures (fun side ↦ ∀ s ∈ side.1.statements, s.OrdersForLimit)
      (Join.side target stage label) := by
  unfold Join.side
  split
  · exact .pure nofun
  · exact .bind (.yields _) fun order hordered ↦ .pure (h.toSelect (Stage.order_of_nested hordered))

theorem Stage.nestsForLimit_joined {left right : Stage} (hleft : left.level.NestsForLimit)
    (hright : right.level.NestsForLimit) {type : JoinType} {keys : List (String × String)}
    {suffixes : String × String}
    (hjoined : Stage.Joined target type keys suffixes left right next) :
    next.level.NestsForLimit := by
  obtain @⟨leftSide, rightSide, -, hleftMade, hrightMade⟩ := hjoined
  have hleftSide := (Join.side_ordersForLimit hleft Join.leftLabel).of_yields hleftMade
  have hrightSide := (Join.side_ordersForLimit hright Join.rightLabel).of_yields hrightMade
  rw [Level.NestsForLimit, Sql.SelectFrom.sources, List.forall_mem_append]
  cases type with
  | semi | anti => exact ⟨hleftSide, nofun⟩
  | inner | left | right | full =>
    refine ⟨hleftSide, ?_⟩
    change ∀ s ∈ rightSide.1.statements ++ [], s.OrdersForLimit
    rwa [List.append_nil]

end Limits

theorem Plan.build_nestsForLimit (target : Target) (plan : Plan) :
    Ensures (fun stage ↦ stage.level.NestsForLimit) (plan.build target) := by
  apply Plan.build_ensures fun _ stage ↦ stage.level.NestsForLimit
  · exact fun name columns ↦ nofun
  · exact fun plan stage next h hnested ↦ Stage.nestsForLimit_nested h hnested
  · exact fun plan verb stage next h hacts ↦ Stage.nestsForLimit_acts h hacts
  · intro left right type keys suffixes leftStage rightStage next hleft hright hjoined
    exact Stage.nestsForLimit_joined hleft hright hjoined

/-- The statements in the conditions of semi and anti joins. -/
theorem Plan.tests_ordersForLimit {target : Target} {plan : Plan} {left : Sql.Source}
    {test : Sql.Select} (h : plan.Tests target left test) :
    ∀ s ∈ Sql.statementsOf test, s.OrdersForLimit := by
  obtain ⟨⟨left, right, keys⟩, -, -, stage, -, side, -, hstage, -, -, hside, -, rfl⟩ := h
  have hright := (right.build_nestsForLimit target).of_yields hstage
  have hsources := (Join.side_ordersForLimit hright Join.rightLabel).of_yields hside
  rw [Sql.statementsOf_eq, List.forall_mem_cons]
  refine ⟨fun hordered ↦ absurd rfl hordered, ?_⟩
  simpa [Sql.matching, Sql.statementsOfJoins] using hsources

/-! ## Whole queries -/

/-- Do the ordering terms at the end of the query call no window function? -/
def Query.hasPlainOrder (d : Dialect) (query : Query) : Bool :=
  query.plan.outline.order.all (fun term ↦ !term.calls.any d.isWindowFunction)

/-- The statement is that of the query when it is compiled alone, except that its subqueries are
counted from another number on. Its order is the same too if it has a limit, unless window functions
order it; otherwise it may have another order or none. -/
structure Query.HasStatement (target : Target) (query : Query) (shift : Nat)
    (statement : Sql.Select) : Prop where
  /-- The query has a last level, even if its order cannot be compiled. -/
  built : ∃ stage progress, (query.build target).run {} = .ok (stage, progress) ∧
    SelectFrom.Renumbered target.dialect shift (stage.level.toSelect [])
      { statement with order := [] }
  alone : ∀ select columns progress,
    (query.toSelect target).run {} = .ok ((select, columns), progress) →
      SelectFrom.Renumbered target.dialect shift { select with order := [] }
        { statement with order := [] }
  ordered : statement.limit ≠ none → query.hasPlainOrder target.dialect = true →
    ∃ select columns progress,
      (query.toSelect target).run {} = .ok ((select, columns), progress) ∧
        statement.order = select.order

theorem Query.toSelect_eq_ok {target : Target} {query : Query} {select : Sql.Select}
    {columns : List String} {start progress : Progress} :
    query.toSelect target start = .ok ((select, columns), progress) ↔
      ∃ stage between order, query.plan.build target start = .ok (stage, between) ∧
        stage.orderBy target between = .ok (order, progress) ∧
          stage.level.toSelect order = select ∧ stage.level.names = columns := by
  rw [toSelect, build_eq_plan]
  constructor
  · intro h
    obtain ⟨⟨stage, between⟩, hstage, h⟩ := bind_eq_ok.1 h
    obtain ⟨⟨order, after⟩, horder, h⟩ := bind_eq_ok.1 h
    cases h
    exact ⟨stage, between, order, hstage, horder, rfl, rfl⟩
  · rintro ⟨stage, between, order, hstage, horder, rfl, rfl⟩
    rw [Compile.bind_of_ok hstage, Compile.bind_of_ok horder]
    rfl

section Queries

variable {target : Target} {part query : Query}

theorem Query.hasStatement_of_alike {alone frozen : Stage} {after : Progress} {shift : Nat}
    (halone : part.plan.build target {} = .ok (alone, after))
    (halike : alone.Alike (.ofShift target shift) frozen) {order : List Sql.Expr}
    (fixed : frozen.FixesOrder target order) :
    part.HasStatement target shift (frozen.level.toSelect order) := by
  have hfollows := part.plan.build_follows target {} alone after halone
  have hstatement := halike.toSelect []
  refine ⟨⟨alone, after, by rw [build_eq_plan]; exact halone, hstatement⟩, ?_, ?_⟩
  · intro select columns progress hselect
    obtain ⟨stage, between, order', hbuild, -, rfl, -⟩ := toSelect_eq_ok.1 hselect
    rw [halone] at hbuild
    cases hbuild
    exact hstatement
  · intro hlimit hplain
    have hterms : ∀ term ∈ frozen.order, ∀ function ∈ term.calls,
        target.dialect.isWindowFunction function = false := by
      have horder : frozen.order = part.plan.outline.order := by
        obtain ⟨-, -, -⟩ := halike
        exact hfollows.order
      rw [horder]
      simpa [hasPlainOrder] using hplain
    have hyields := fixed (Option.isSome_iff_ne_none.2 hlimit) hterms
    have hsame : alone.orderBy target = frozen.orderBy target := by
      obtain ⟨-, -, -⟩ := halike
      rfl
    rw [← hsame] at hyields
    obtain ⟨progress, horder⟩ := alone.orderBy_repeatable target order hyields after
    exact ⟨_, _, progress, toSelect_eq_ok.2 ⟨alone, after, order, halone, horder, rfl, rfl⟩, rfl⟩

/-- A statement contains those of all parts of its query that froze theirs. -/
theorem Query.contains_frozen (hpart : part.LeadsTo query) (hfreezes : part.freezes = true)
    {select : Sql.Select} {columns : List String} {progress : Progress}
    (hselect : query.toSelect target {} = .ok ((select, columns), progress)) :
    ∃ statement shift, select.Contains target.dialect statement ∧
      part.HasStatement target shift statement := by
  obtain ⟨stage, between, order, hbuild, horder, rfl, -⟩ := toSelect_eq_ok.1 hselect
  obtain ⟨frozen, ⟨start, finish, hfrozen⟩, hkeeps⟩ :=
    Plan.build_keeps hpart.plan (build_isSealed target hfreezes) {} stage between hbuild
  obtain ⟨order', fixed, contains⟩ := hkeeps.toSelect fun _ _ ↦ ⟨between, progress, horder⟩
  obtain ⟨alone, after, halone, halike⟩ := Plan.build_alone hfrozen
  exact ⟨_, start.subqueries, contains, hasStatement_of_alike halone halike fixed⟩

/-- Limits, dropping repeated rows and joins freeze their statement. Whatever verbs follow, the
statement of such a query is contained in that of the whole query, the same in every clause as when
the query is compiled alone; its subqueries have later numbers, and the order is the same if it has
a limit. No nested statement has an order without a limit. -/
theorem Query.frozen_statements_kept {compiled : Compiled}
    (h : query.compile target = .ok compiled) :
    ∃ select progress,
      (query.toSelect target).run {} = .ok ((select, compiled.columns), progress) ∧
        compiled.sql = select.render target.dialect ∧
          (∀ part : Query, part.freezes = true → part.LeadsTo query →
            ∃ statement shift, select.Contains target.dialect statement ∧
              part.HasStatement target shift statement) ∧
          ∀ statement,
            (statement ∈ select.sources ∨ ∃ left test, query.plan.Tests target left test ∧
              statement ∈ Sql.statementsOf test) → statement.order ≠ [] → statement.limit ≠ none := by
  obtain ⟨⟨⟨select, columns⟩, progress⟩, hselect, hcompiled⟩ := bind_eq_ok.1 h
  cases hcompiled
  refine ⟨select, progress, hselect, rfl, ?_, ?_⟩
  · intro part hfreezes hpart
    exact contains_frozen hpart hfreezes hselect
  · rintro statement (hinside | ⟨left, test, htest, hinside⟩)
    · obtain ⟨stage, between, order, hbuild, -, rfl, -⟩ := toSelect_eq_ok.1 hselect
      exact query.plan.build_nestsForLimit target {} stage between hbuild statement hinside
    · exact Plan.tests_ordersForLimit htest statement hinside

end Queries

/-- The ten largest sales, without repetitions. -/
def largestSales : Query :=
  .head (.arrange (.distinct (.table "sales" ["day", "amount"]))
    [.call "desc" [.symbol "amount"] []]) 10

/-- The days of the largest sales, as far as they are days of a fair. -/
def fairDays : Query :=
  .join (.filter (.distinct (.table "fairs" ["day", "city"]))
    [.call "==" [.symbol "city", .literal (.string (some "Utrecht"))] []]) largestSales .semi
    [("day", "day")] Query.defaultSuffixes

def fairDays.target : Target where
  dialect := .ansi
  now := ⟨⟨2000, 1, 1⟩, 0, 0, 0⟩

open fairDays in
theorem Query.frozen_statements_kept_fairDays :
    ∃ compiled select progress statement shift, fairDays.compile target = .ok compiled ∧
      (fairDays.toSelect target).run {} = .ok ((select, compiled.columns), progress) ∧
        select.Contains target.dialect statement ∧
          largestSales.HasStatement target shift statement ∧ statement.limit = some 10 ∧
            largestSales.hasPlainOrder target.dialect = true := by
  obtain ⟨compiled, hcompiled⟩ : ∃ compiled, fairDays.compile target = .ok compiled := ⟨_, rfl⟩
  obtain ⟨select, progress, hselect, -, hfrozen, -⟩ := Query.frozen_statements_kept hcompiled
  have hpart : largestSales.LeadsTo fairDays := .more .refl (by simp [fairDays, Query.parents])
  obtain ⟨statement, shift, hcontains, hstatement⟩ := hfrozen largestSales rfl hpart
  have hlimit : statement.limit = some 10 := by
    obtain ⟨stage, after, hbuilt, hsame⟩ := hstatement.built
    obtain ⟨stage', after', hbuilt', hlimit⟩ : ∃ stage after,
        (largestSales.build target).run {} = .ok (stage, after) ∧
          stage.level.body.limit = some 10 := ⟨_, _, rfl, rfl⟩
    rw [hbuilt] at hbuilt'
    cases hbuilt'
    exact (SelectFrom.Alike.limit hsame).trans hlimit
  exact ⟨compiled, select, progress, statement, shift, hcompiled, hselect, hcontains, hstatement,
    hlimit, by decide +kernel⟩

end SqlVerbs
