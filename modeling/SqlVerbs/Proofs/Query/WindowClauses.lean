import SqlVerbs.Dialect.Registry
import SqlVerbs.Proofs.Lowering.Windowing
import SqlVerbs.Proofs.Query.Statements

/-!
# Windows stay out of conditions

A window function may stand among the output columns and in the order of rows, but not in a
condition or a grouping. Conditions are looked at before definitions take the places of columns in
them. So the invariant is that the definitions which can get into a condition have no windows: a
level with windows is nested before it is filtered or summarised. Groups are filtered where they
are, and then it depends on the summaries.
-/

namespace SqlVerbs

open Compile (Ensures Yields)

/-! ## Summaries without window functions -/

/-- Do the summaries of a verb call no window function? -/
def Verb.hasPlainSummaries (d : Dialect) : Verb → Bool
  | .summarise columns => columns.all (fun column ↦ !column.2.calls.any d.isWindowFunction)
  | _ => true

/-- Do the summaries of a plan call no window function? -/
def Plan.hasPlainSummaries (d : Dialect) : Plan → Bool
  | .table _ _ => true
  | .andThen parent verb => parent.hasPlainSummaries d && verb.hasPlainSummaries d
  | .join left right _ _ _ => left.hasPlainSummaries d && right.hasPlainSummaries d

/-! ## Clauses without windows -/

/-- The statement has no windows in the conditions on its rows, in its groups and in the conditions
of its joins. If the summaries are plain, it has none in the conditions on its groups either. -/
structure Sql.SelectFrom.KeepsWindowsOut (select : Sql.Select) (plain : Prop) : Prop where
  filters : ∀ e ∈ select.filters, e.isWindowed = false
  groups : ∀ e ∈ select.groups, e.isWindowed = false
  joins : ∀ join ∈ select.joins, ∀ e ∈ join.on, e.isWindowed = false
  having : plain → ∀ e ∈ select.having, e.isWindowed = false

/-- Every statement that a stage reads from keeps windows out of conditions, and so will the
statement of the stage itself. -/
structure Stage.KeepsWindowsOut (stage : Stage) (plain : Prop) : Prop where
  body : stage.level.body.KeepsWindowsOut plain
  sources : ∀ s ∈ stage.level.body.sources, s.KeepsWindowsOut plain
  summaries : plain → stage.level.summarised = true → stage.level.hasWindows = false

section Steps

variable {target : Target} {plain : Prop} {stage next : Stage}

theorem Sql.SelectFrom.KeepsWindowsOut.mono {select : Sql.Select} {plain' : Prop}
    (h : select.KeepsWindowsOut plain) (hplain : plain' → plain) :
    select.KeepsWindowsOut plain' :=
  ⟨h.filters, h.groups, h.joins, fun hp ↦ h.having (hplain hp)⟩

theorem Stage.KeepsWindowsOut.mono {plain' : Prop} (h : stage.KeepsWindowsOut plain)
    (hplain : plain' → plain) : stage.KeepsWindowsOut plain' :=
  ⟨h.body.mono hplain, fun s hs ↦ (h.sources s hs).mono hplain,
    fun hp ↦ h.summaries (hplain hp)⟩

/-- All statements of the finished stage keep windows out of conditions. -/
theorem Stage.KeepsWindowsOut.toSelect (h : stage.KeepsWindowsOut plain) (order : List Sql.Expr) :
    ∀ s ∈ Sql.statementsOf (stage.level.toSelect order), s.KeepsWindowsOut plain := by
  rw [Sql.statementsOf_eq, List.forall_mem_cons]
  exact ⟨⟨h.body.filters, h.body.groups, h.body.joins, h.body.having⟩, h.sources⟩

/-! ## Steps -/

theorem Stage.KeepsWindowsOut.nested (h : stage.KeepsWindowsOut plain)
    (hnested : stage.Nested target next) : next.KeepsWindowsOut plain := by
  obtain ⟨hordered⟩ := hnested
  refine ⟨⟨nofun, nofun, nofun, fun _ ↦ nofun⟩, ?_, fun _ ↦ nofun⟩
  intro s hs
  exact h.toSelect _ s (by simpa [Sql.SelectFrom.sources, Level.ofSource, Sql.Source.statements,
    Sql.statementsOfJoins] using hs)

theorem Level.hasWindows_iff {level : Level} :
    level.hasWindows = false ↔ ∀ entry ∈ level.columns, entry.2.isWindowed = false := by
  simp [Level.hasWindows, Bindings.values]

/-- Only the output columns of the level change, and they are defined as before. -/
theorem Stage.KeepsWindowsOut.withColumns (h : stage.KeepsWindowsOut plain)
    {columns : Bindings Sql.Expr} {groups : List String}
    (hcolumns : ∀ entry ∈ columns, ∃ old ∈ stage.level.columns, old.2 = entry.2) :
    { stage with level := { stage.level with columns }, groups }.KeepsWindowsOut plain := by
  refine ⟨h.body, h.sources, ?_⟩
  intro hplain hsummarised
  refine Level.hasWindows_iff.2 fun entry hentry ↦ ?_
  obtain ⟨old, hmem, heq⟩ := hcolumns entry hentry
  rw [← heq]
  exact Level.hasWindows_iff.1 (h.summaries hplain hsummarised) old hmem

theorem Level.isWindowed_of_get? {level : Level} (h : level.hasWindows = false) {name : String}
    {definition : Sql.Expr} (hget : level.columns.get? name = some definition) :
    definition.isWindowed = false :=
  Level.hasWindows_iff.1 h (name, definition) (Bindings.mem_of_get? hget)

theorem Level.isWindowed_selectList {level : Level} (h : level.hasWindows = false) :
    ∀ e ∈ level.selectList.exprs, e.isWindowed = false := by
  rw [Level.selectList]
  split
  · exact List.forall_mem_nil _
  · rw [Sql.SelectList.exprs, List.map_map, List.forall_mem_map]
    intro entry hentry
    rw [Function.comp_apply, (Sql.outputName?_named entry.2 entry.1).2]
    exact Level.hasWindows_iff.1 h entry hentry

/-- A condition without windows has none over the source of a level without windows. -/
theorem Level.isWindowed_resolve {level : Level} (h : level.hasWindows = false) {computed : Bool}
    {e : Sql.Expr} (he : e.isWindowed = false) :
    (level.resolve computed e).isWindowed = false :=
  Sql.Expr.isWindowed_inline he fun _ _ hdefinition ↦
    level.isWindowed_of_get? h (Option.filter_eq_some_iff.1 hdefinition).1

theorem Stage.KeepsWindowsOut.addFilter (h : stage.KeepsWindowsOut plain) {e : Sql.Expr}
    (he : e.isWindowed = false) :
    { stage with level := stage.level.addFilter e }.KeepsWindowsOut plain := by
  refine ⟨⟨?_, h.body.groups, h.body.joins, h.body.having⟩, h.sources, h.summaries⟩
  intro e' he'
  rcases List.mem_append.1 he' with hold | hnew
  · exact h.body.filters e' hold
  · rw [List.mem_singleton.1 hnew]
    exact he

/-- The windows of a condition become columns below, and what is left of it has none. -/
theorem Stage.KeepsWindowsOut.filterWindows (h : stage.KeepsWindowsOut plain)
    {condition rest : Sql.Expr} {windows : Windows} {order : List Sql.Expr} {label : String}
    (htaken : takeWindows stage.level.names condition [] = (rest, windows)) :
    { stage with
      level := ((Level.ofSource (.subquery ((stage.level.setWindows windows).toSelect order) label)
        (stage.level.setWindows windows).names).addFilter rest).keepOnly
          stage.level.names }.KeepsWindowsOut plain := by
  have htakes : Takes stage.level.names [] windows [condition] [rest] := by
    simpa [htaken] using takes_takeWindows stage.level.names condition []
  have hselect : (stage.level.setWindows windows).toSelect order =
      { stage.level.body with items := (stage.level.setWindows windows).selectList, order } := by
    rw [Level.toSelect, stage.level.body_setWindows]
  refine ⟨⟨?_, List.forall_mem_nil _, List.forall_mem_nil _, fun _ ↦ List.forall_mem_nil _⟩, ?_,
    fun _ ↦ (absurd · Bool.false_ne_true)⟩
  · intro e he
    have hrest : e = rest := by
      simpa [Level.keepOnly, Level.addFilter, Level.ofSource] using he
    rw [hrest]
    exact htakes.windowless rest List.mem_cons_self
  · intro s hs
    have hs' : s ∈ Sql.statementsOf ((stage.level.setWindows windows).toSelect order) := by
      simpa [Sql.SelectFrom.sources, Level.keepOnly, Level.addFilter, Level.ofSource,
        Sql.Source.statements, Sql.statementsOfJoins] using hs
    rw [hselect, Sql.statementsOf_eq, List.mem_cons] at hs'
    rcases hs' with rfl | hs'
    · exact ⟨h.body.filters, h.body.groups, h.body.joins, h.body.having⟩
    · exact h.sources s hs'

theorem Stage.KeepsWindowsOut.filterGroups (h : stage.KeepsWindowsOut plain) {e : Sql.Expr}
    (hgroups : stage.level.summarised = true) (he : e.isWindowed = false) :
    { stage with
      level := stage.level.addHaving (stage.level.resolve true e) }.KeepsWindowsOut plain := by
  refine ⟨⟨h.body.filters, h.body.groups, h.body.joins, ?_⟩, h.sources, h.summaries⟩
  intro hplain e' he'
  rcases List.mem_append.1 he' with hold | hnew
  · exact h.body.having hplain e' hold
  · rw [List.mem_singleton.1 hnew]
    exact Level.isWindowed_resolve (h.summaries hplain hgroups) he

/-! ## Summaries -/

/-- An expression that calls no window function becomes one without windows, as long as aggregates
are none. -/
theorem Stage.lower_isWindowed {more : List String} {e : Host.Expr}
    (h : e.calls.any target.dialect.isWindowFunction = false) :
    Ensures (fun lowered ↦ lowered.isWindowed = false) (stage.lower target false more e) := by
  refine .bind (.ofExcept _) (fun residual hresidual ↦ ?_)
  refine .mono (.ofNoted _) (fun lowered ⟨warnings, hlowered⟩ ↦ ?_)
  rw [List.any_eq_false] at h
  have hwindow : ∀ function ∈ residual.calls,
      target.dialect.isWindowFunction function = false := by
    intro function hfunction
    simpa using h function (Local.partialEval_calls hresidual function hfunction)
  have hover := @Lowering.lower_plain (stage.context target false) residual.references residual rfl
    hwindow (fun _ hname ↦ hname) lowered warnings hlowered
  exact hover.isWindowed

theorem Stage.summaries_isWindowed (hwindows : stage.level.hasWindows = false)
    {columns : List (String × Host.Expr)}
    (hcolumns : ∀ column ∈ columns, ∀ more,
      Ensures (fun lowered ↦ lowered.isWindowed = false) (stage.lower target false more column.2))
    {done : Bindings Sql.Expr} (hdone : ∀ entry ∈ done, entry.2.isWindowed = false) :
    Ensures (fun summaries ↦ ∀ entry ∈ summaries, entry.2.isWindowed = false)
      (stage.summaries target done columns) := by
  induction columns generalizing done with
  | nil => exact .pure hdone
  | cons column later ih =>
    rw [List.forall_mem_cons] at hcolumns
    refine .bind (hcolumns.1 _) (fun lowered hlowered ↦ ?_)
    refine ih hcolumns.2 ?_
    intro entry hentry
    rcases Bindings.mem_of_mem_insert hentry with hold | rfl
    · exact hdone entry hold
    · apply Sql.Expr.isWindowed_inline hlowered
      intro name definition hdefinition
      rcases Option.or_eq_some_iff.1 hdefinition with hget | ⟨-, hget⟩
      · exact hdone _ (Bindings.mem_of_get? hget)
      · exact stage.level.isWindowed_of_get? hwindows hget

theorem Stage.isWindowed_groupDefinition (hwindows : stage.level.hasWindows = false)
    (group : String) : (stage.groupDefinition group).isWindowed = false := by
  unfold Stage.groupDefinition
  cases hget : stage.level.columns.get? group with
  | none => rfl
  | some definition => exact stage.level.isWindowed_of_get? hwindows hget

/-- A summary of rows without windows has none, if none of its summaries becomes one. -/
theorem Stage.isWindowed_summary (hwindows : stage.level.hasWindows = false)
    {columns : List (String × Host.Expr)} {summaries : Bindings Sql.Expr}
    (hcolumns : ∀ column ∈ columns, ∀ more,
      Ensures (fun lowered ↦ lowered.isWindowed = false) (stage.lower target false more column.2))
    (hsummaries : (stage.summaries target [] columns).Yields summaries) :
    (Bindings.ofPairs (stage.groups.map (fun group ↦ (group, stage.groupDefinition group)) ++
      summaries)).values.any Sql.Expr.isWindowed = false := by
  have hdefined := (stage.summaries_isWindowed hwindows hcolumns
    (List.forall_mem_nil _)).of_yields hsummaries
  rw [Bindings.values, List.any_map, List.any_eq_false]
  intro entry hentry
  rw [Function.comp_apply, Bool.not_eq_true]
  rcases List.mem_append.1 (Bindings.mem_of_mem_ofPairs hentry) with hgroup | hsummary
  · obtain ⟨group, -, rfl⟩ := List.mem_map.1 hgroup
    exact stage.isWindowed_groupDefinition hwindows group
  · exact hdefined entry hsummary

theorem Stage.KeepsWindowsOut.summarise (h : stage.KeepsWindowsOut plain)
    (hwindows : stage.level.hasWindows = false) {columns : List (String × Host.Expr)}
    {summaries : Bindings Sql.Expr}
    (hcolumns : plain →
      ∀ column ∈ columns, column.2.calls.any target.dialect.isWindowFunction = false)
    (hsummaries : (stage.summaries target [] columns).Yields summaries) :
    { stage with
      level := { stage.level with
        body := { stage.level.body with groups := stage.groups.map stage.groupDefinition }
        columns := Bindings.ofPairs
          (stage.groups.map (fun group ↦ (group, stage.groupDefinition group)) ++ summaries)
        summarised := true }
      groups := stage.groups.dropLast
      order := [] }.KeepsWindowsOut plain := by
  refine ⟨⟨h.body.filters, ?_, h.body.joins, h.body.having⟩, h.sources, ?_⟩
  · rw [List.forall_mem_map]
    intro group _
    exact stage.isWindowed_groupDefinition hwindows group
  · intro hplain _
    exact stage.isWindowed_summary hwindows
      (fun column hcolumn _ ↦ Stage.lower_isWindowed (hcolumns hplain column hcolumn)) hsummaries

/-! ## Joins -/

theorem isWindowed_condition (keys : List (String × String)) :
    ∀ e ∈ Join.condition keys, e.isWindowed = false := by
  rw [Join.condition, List.forall_mem_map]
  exact fun _ _ ↦ rfl

/-- The statements of a side are those of its stage. -/
theorem Stage.KeepsWindowsOut.side (h : stage.KeepsWindowsOut plain) (label : String) :
    Ensures (fun side ↦ ∀ s ∈ side.1.statements, s.KeepsWindowsOut plain)
      (Join.side target stage label) := by
  unfold Join.side
  split
  · exact .pure nofun
  · exact .bind (.trivial _) (fun order _ ↦ .pure (h.toSelect order))

theorem Stage.KeepsWindowsOut.joined {left right : Stage} (hleft : left.KeepsWindowsOut plain)
    (hright : right.KeepsWindowsOut plain) {type : JoinType} {keys : List (String × String)}
    {suffixes : String × String}
    (hjoined : Stage.Joined target type keys suffixes left right next) :
    next.KeepsWindowsOut plain := by
  obtain @⟨leftSide, rightSide, -, hleftMade, hrightMade⟩ := hjoined
  have hleftSide := (hleft.side Join.leftLabel).of_yields hleftMade
  have hrightSide := (hright.side Join.rightLabel).of_yields hrightMade
  have htest (negated : Bool) : { left with
      level := Join.semiLevel target.dialect negated leftSide.1 rightSide.1 leftSide.2 keys
      order := [] }.KeepsWindowsOut plain := by
    refine ⟨⟨?_, nofun, nofun, fun _ ↦ nofun⟩, ?_, fun _ ↦ nofun⟩
    · intro e he
      rw [List.mem_singleton.1 he]
      rfl
    · simpa [Sql.SelectFrom.sources, Join.semiLevel, Sql.statementsOfJoins] using hleftSide
  have hboth (kind : Sql.JoinKind) (columns : Bindings Sql.Expr) : { left with
      level := Join.fullLevel kind leftSide.1 rightSide.1 keys columns
      order := [] }.KeepsWindowsOut plain := by
    refine ⟨⟨nofun, nofun, ?_, fun _ ↦ nofun⟩, ?_, fun _ ↦ nofun⟩
    · intro join hjoin
      rw [List.mem_singleton.1 hjoin]
      exact isWindowed_condition keys
    · simpa [Sql.SelectFrom.sources, Join.fullLevel, Sql.statementsOfJoins, or_imp, forall_and]
        using ⟨hleftSide, hrightSide⟩
  cases type with
  | semi => exact htest false
  | anti => exact htest true
  | inner | left | right | full => exact hboth _ _

/-! ## Whole plans -/

theorem Stage.KeepsWindowsOut.acts (h : stage.KeepsWindowsOut plain) {verb : Verb}
    (hverb : plain → verb.hasPlainSummaries target.dialect = true)
    (hacts : verb.Acts target stage next) : next.KeepsWindowsOut plain := by
  cases hacts with
  | pick opened known => exact h.withColumns (fun _ ↦ Level.mem_pickedColumns)
  | filterRows opened rows windowless lowered apart condition =>
    exact h.addFilter (Level.isWindowed_resolve windowless condition)
  | filterWindows opened rows windowless lowered apart taken ordered => exact h.filterWindows taken
  | filterGroups opened groups lowered condition => exact h.filterGroups groups condition
  | mutate opened rows lowers apart =>
    -- The level is no summary, so nothing is asked of its columns.
    refine ⟨h.body, h.sources, fun _ hsummarised ↦ ?_⟩
    exact absurd hsummarised (by simp [Level.setColumn, rows])
  | summarise opened rows windowless apart defined =>
    refine h.summarise windowless ?_ defined
    intro hplain
    simpa [Verb.hasPlainSummaries] using hverb hplain
  | distinct opened =>
    exact ⟨⟨h.body.filters, h.body.groups, h.body.joins, h.body.having⟩, h.sources, h.summaries⟩
  | head opened =>
    exact ⟨⟨h.body.filters, h.body.groups, h.body.joins, h.body.having⟩, h.sources, h.summaries⟩
  | arrange | groupBy | ungroup | windowOrder | windowFrame =>
    exact ⟨h.body, h.sources, h.summaries⟩
  | collapse => exact h

end Steps

theorem Plan.build_keepsWindowsOut (target : Target) (plan : Plan) :
    Ensures (fun stage ↦ stage.KeepsWindowsOut (plan.hasPlainSummaries target.dialect = true))
      (plan.build target) := by
  apply Plan.build_ensures fun plan stage ↦
    stage.KeepsWindowsOut (plan.hasPlainSummaries target.dialect = true)
  · intro name columns
    exact ⟨⟨nofun, nofun, nofun, fun _ ↦ nofun⟩, nofun, fun _ ↦ nofun⟩
  · intro plan stage next h hnested
    exact h.nested hnested
  · intro plan verb stage next h hacts
    have hplain := fun hp ↦ Bool.and_eq_true_iff.1
      (show (plan.hasPlainSummaries target.dialect && verb.hasPlainSummaries target.dialect) = true
        from hp)
    exact (h.mono fun hp ↦ (hplain hp).1).acts (fun hp ↦ (hplain hp).2) hacts
  · intro left right type keys suffixes leftStage rightStage next hleft hright hjoined
    have hplain := fun hp ↦ Bool.and_eq_true_iff.1
      (show (left.hasPlainSummaries target.dialect && right.hasPlainSummaries target.dialect) = true
        from hp)
    exact (hleft.mono fun hp ↦ (hplain hp).1).joined (hright.mono fun hp ↦ (hplain hp).2) hjoined

/-- The statements in the conditions of semi and anti joins. -/
theorem Plan.tests_keepWindowsOut {target : Target} {plan : Plan} {left : Sql.Source}
    {test : Sql.Select} (h : plan.Tests target left test) :
    ∀ s ∈ Sql.statementsOf test,
      s.KeepsWindowsOut (plan.hasPlainSummaries target.dialect = true) := by
  obtain ⟨⟨left, right, keys⟩, htest, -, stage, -, side, -, hstage, -, -, hside, -, rfl⟩ := h
  have hplain : plan.hasPlainSummaries target.dialect = true →
      right.hasPlainSummaries target.dialect = true := by
    intro hp
    refine (Plan.of_mem_tests (fun plan ↦ plan.hasPlainSummaries target.dialect = true) ?_ ?_ hp
      htest).2
    · exact fun _ _ h ↦ (Bool.and_eq_true_iff.1 h).1
    · exact fun _ _ _ _ _ h ↦ Bool.and_eq_true_iff.1 h
  have hright := ((right.build_keepsWindowsOut target).of_yields hstage).mono hplain
  have hsources := (hright.side Join.rightLabel).of_yields hside
  rw [Sql.statementsOf_eq, List.forall_mem_cons]
  constructor
  · exact ⟨isWindowed_condition keys, nofun, nofun, fun _ ↦ nofun⟩
  · simpa [Sql.matching, Sql.statementsOfJoins] using hsources

/-- Window functions stay out of conditions. In every statement that a query is compiled to, at any
depth, there is no window in the conditions on rows, in the groups and in the conditions of joins.
There is none in the conditions on groups either, if no summary of the query calls a window
function. -/
theorem Query.windows_in_legal_clauses {target : Target} {query : Query} {compiled : Compiled}
    (h : query.compile target = .ok compiled) :
    ∃ select progress,
      (query.toSelect target).run {} = .ok ((select, compiled.columns), progress) ∧
        compiled.sql = select.render target.dialect ∧
          ∀ s, query.HoldsStatement target select s →
            s.KeepsWindowsOut (query.plan.hasPlainSummaries target.dialect = true) := by
  obtain ⟨⟨⟨select, columns⟩, progress⟩, hselect, hcompiled⟩ := bind_eq_ok.1 h
  cases hcompiled
  refine ⟨select, progress, hselect, rfl, ?_⟩
  have hresult : Ensures (fun result ↦ ∀ s ∈ Sql.statementsOf result.1,
      s.KeepsWindowsOut (query.plan.hasPlainSummaries target.dialect = true))
      (query.toSelect target) := by
    rw [Query.toSelect, Query.build_eq_plan]
    refine .bind (query.plan.build_keepsWindowsOut target) (fun stage hstage ↦ ?_)
    exact .bind (.trivial _) (fun order _ ↦ .pure (hstage.toSelect order))
  intro s hs
  rcases hs with hhere | ⟨left, test, htest, hinside⟩
  · exact hresult {} (select, columns) progress hselect s hhere
  · exact Plan.tests_keepWindowsOut htest s hinside

/-- Rows above the mean of their group, as long as the group is among the large ones. -/
def largeGroups : Query :=
  let above := Host.Expr.call ">" [.symbol "x", .call "mean" [.symbol "x"] []] []
  let large := Host.Expr.call ">" [.symbol "n", .literal (.integer (some 1))] []
  let counts := ((Query.table "u" ["g", "y"]).groupBy ["g"]).summarise [("n", .call "n" [] [])]
  .join (((Query.table "t" ["g", "x"]).groupBy ["g"]).filter [above]) (counts.filter [large]) .semi
    [("g", "g")] Query.defaultSuffixes

def largeGroups.target : Target where
  dialect := .ansi
  now := ⟨⟨2000, 1, 1⟩, 0, 0, 0⟩

open largeGroups in
theorem Query.windows_in_legal_clauses_largeGroups :
    ∃ compiled select progress, largeGroups.compile target = .ok compiled ∧
      (largeGroups.toSelect target).run {} = .ok ((select, compiled.columns), progress) ∧
        largeGroups.plan.hasPlainSummaries target.dialect = true ∧
          ∀ s, largeGroups.HoldsStatement target select s → s.KeepsWindowsOut True := by
  obtain ⟨compiled, hcompiled⟩ : ∃ compiled, largeGroups.compile target = .ok compiled := ⟨_, rfl⟩
  have hplain : largeGroups.plan.hasPlainSummaries target.dialect = true := by decide +kernel
  obtain ⟨select, progress, hselect, -, hlegal⟩ := Query.windows_in_legal_clauses hcompiled
  refine ⟨compiled, select, progress, hcompiled, hselect, hplain, fun s hs ↦ ?_⟩
  exact (hlegal s hs).mono (fun _ ↦ hplain)

end SqlVerbs
