import SqlVerbs.Dialect.Registry
import SqlVerbs.Proofs.Query.ScopedLevels

/-!
# Compiled queries are well scoped

The expressions of a verb are made of columns that are visible there. Groups and orderings are not:
they are carried by name from verb to verb, while columns are dropped, renamed and given suffixes,
and local bindings in the order of windows are never looked up. So it takes a condition that what is
carried is visible where it is used. It is on names only, and under it every statement of the
compiled query mentions only columns that it sees.
-/

namespace SqlVerbs

open Compile (Ensures Yields)
open Sql (TableName)

/-! ## What verbs mention, and what they carry -/

namespace Outline

/-- The names of a verb's expressions: the visible columns and more. -/
def scope (target : Target) (o : Outline) (more : List String) : Local.Scope where
  columns := o.columns ++ more
  env := target.env
  now := target.now

/-- The terms that order windows. -/
def windowTerms (o : Outline) : List Host.Expr :=
  if o.windowOrder.isEmpty then o.order else o.windowOrder

/-- Where the expressions of a verb stand. -/
def context (target : Target) (o : Outline) (windowed : Bool) : Lowering.Context where
  dialect := target.dialect
  groups := o.groups
  order := o.windowTerms
  frame := o.frame
  windowed := windowed
  strict := target.strict

/-- Do summaries mention visible columns, earlier summaries and local bindings only? -/
def coversSummaries (target : Target) (o : Outline) (earlier : List String) :
    List (String × Host.Expr) → Bool
  | [] => true
  | (name, e) :: later =>
    (o.scope target earlier).covers e &&
      o.coversSummaries target (if name ∈ earlier then earlier else earlier ++ [name]) later

/-- Are the groups visible? -/
def groupsVisible (o : Outline) : Bool := o.groups.all (fun group ↦ o.columns.contains group)

/-- Are the columns visible that order windows? -/
def windowTermsVisible (o : Outline) : Bool :=
  o.windowTerms.all (fun term ↦ term.references.all (fun name ↦ o.columns.contains name))

/-- Are the groups visible if the expression may open a window, and the columns that order windows
if it may consult these? -/
def carries (target : Target) (o : Outline) (windowed : Bool) (e : Host.Expr) : Bool :=
  (!e.calls.any (o.context target windowed).opens || o.groupsVisible) &&
    (!e.calls.any (o.context target windowed).consults || o.windowTermsVisible)

/-- The terms that still order rows: all their names mean something. -/
def liveTerms (target : Target) (o : Outline) : List Host.Expr :=
  o.order.filter (fun term ↦ term.references.all (fun name ↦
    o.columns.contains name || target.env.has name || name = ".data" || name = ".env"))

/-- Do the terms that order rows mention visible columns and local bindings only, also by pronoun
and in their windows? -/
def ordersVisible (target : Target) (o : Outline) : Bool :=
  (o.liveTerms target).all (fun term ↦
    (o.scope target []).covers term && o.carries target false term)

end Outline

/-- Do the expressions of a verb mention visible columns and local bindings only? Terms that order
are looked at where they are used. -/
def Verb.mentionsVisible (target : Target) (o : Outline) : Verb → Bool
  | .filter e | .mutate _ e => (o.scope target []).covers e
  | .summarise columns => o.coversSummaries target [] columns
  | _ => true

/-- Are the groups and orderings that a verb uses visible there? -/
def Verb.carriesVisible (target : Target) (o : Outline) : Verb → Bool
  | .filter e | .mutate _ e => o.carries target true e
  | .summarise columns =>
    o.groupsVisible && columns.all (fun column ↦ o.carries target false column.2)
  | _ => true

namespace Plan

/-- Do all verbs mention columns that are visible where they stand, and local bindings only? -/
def mentionsVisible (target : Target) : Plan → Bool
  | .table _ _ => true
  | .andThen parent verb =>
    parent.mentionsVisible target && verb.mentionsVisible target parent.outline
  | .join left right _ _ _ => left.mentionsVisible target && right.mentionsVisible target

/-- Are groups and orderings visible wherever they are used before the end? The order of rows is
used where a limit depends on it. -/
def carriesVisible (target : Target) : Plan → Bool
  | .table _ _ => true
  | .andThen parent verb =>
    parent.carriesVisible target && verb.carriesVisible target parent.outline &&
      (!(verb.outline parent.outline).limited ||
        (verb.outline parent.outline).ordersVisible target)
  | .join left right _ _ _ => left.carriesVisible target && right.carriesVisible target

/-- The tables of a plan with their declared columns. -/
def tables : Plan → List (String × List String)
  | .table name columns => [(name, columns)]
  | .andThen parent _ => parent.tables
  | .join left right _ _ _ => left.tables ++ right.tables

end Plan

/-! ## Expressions at a stage -/

section Expressions

variable {target : Target} {stage : Stage} {o : Outline}

theorem Stage.Follows.scope (h : stage.Follows o) (more : List String) :
    stage.scope target more = o.scope target more := by
  rw [Stage.scope, h.names]
  rfl

theorem Stage.Follows.context (h : stage.Follows o) (windowed : Bool) :
    stage.context target windowed = o.context target windowed := by
  rw [Stage.context, Stage.windowTerms, h.groups, h.order, h.windowOrder, h.frame]
  rfl

theorem Stage.Follows.liveTerms (h : stage.Follows o) :
    stage.liveTerms target = o.liveTerms target := by
  have hknows : stage.knows target = fun name ↦
      o.columns.contains name || target.env.has name || name = ".data" || name = ".env" := by
    funext name
    have hhas : stage.level.has name = o.columns.contains name := by
      rw [Bool.eq_iff_iff, List.contains_iff_mem, ← h.names]
      exact Bindings.get?_isSome
    rw [Stage.knows, hhas]
  rw [Stage.liveTerms, Outline.liveTerms, h.order, hknows]

/-- An expression that mentions what is visible becomes one over the visible columns. -/
theorem Stage.Follows.lower (h : stage.Follows o) {windowed : Bool} {more : List String}
    {e : Host.Expr} (hcovers : (o.scope target more).covers e = true)
    (hcarries : o.carries target windowed e = true) :
    Ensures (Sql.Expr.Over (stage.level.names ++ more) true)
      (stage.lower target windowed more e) := by
  rw [Stage.lower, h.scope, h.context, h.names]
  refine .bind (.ofExcept _) (fun residual hresidual ↦ ?_)
  refine .mono (.ofNoted _) (fun lowered ⟨warnings, hlowered⟩ ↦ ?_)
  have hcalls {p : String → Bool} (hp : residual.calls.any p = true) : e.calls.any p = true := by
    obtain ⟨function, hfunction, hpfunction⟩ := List.any_eq_true.1 hp
    exact List.any_eq_true.2 ⟨function, Local.partialEval_calls hresidual function hfunction,
      hpfunction⟩
  simp only [Outline.carries, Bool.and_eq_true, Bool.or_eq_true, Bool.not_eq_true'] at hcarries
  have hover := @Lowering.lower_over (o.columns ++ more) (o.context target windowed) residual
    (Local.partialEval_columns hcovers hresidual)
    (by
      intro hopens group hgroup
      have hvisible := hcarries.1.resolve_left (by simp [hcalls hopens])
      exact List.mem_append_left _ (by simpa using List.all_eq_true.1 hvisible group hgroup))
    (by
      intro hconsults term hterm name hname
      have hvisible := hcarries.2.resolve_left (by simp [hcalls hconsults])
      have hterms := List.all_eq_true.1 hvisible term hterm
      exact List.mem_append_left _ (by simpa using List.all_eq_true.1 hterms name hname))
    lowered warnings hlowered
  exact hover.mono (fun _ hname ↦ hname) (fun _ ↦ rfl)

theorem Stage.Follows.over_of_yields (h : stage.Follows o) {windowed : Bool} {e : Host.Expr}
    {lowered : Sql.Expr} (hcovers : (o.scope target []).covers e = true)
    (hcarries : o.carries target windowed e = true)
    (hlowered : (stage.lower target windowed [] e).Yields lowered) :
    lowered.Over stage.level.names true := by
  have hover := (h.lower hcovers hcarries).of_yields hlowered
  rwa [List.append_nil] at hover

theorem Stage.Follows.orderBy (h : stage.Follows o) (hvisible : o.ordersVisible target = true) :
    Ensures stage.level.OrderedBy (stage.orderBy target) := by
  rw [Stage.orderBy, h.liveTerms]
  refine .mapM (fun term hterm ↦ ?_)
  have hterm' := List.all_eq_true.1 hvisible term hterm
  rw [Bool.and_eq_true] at hterm'
  refine .bind (h.lower hterm'.1 hterm'.2) (fun lowered hlowered ↦ .pure ?_)
  exact ⟨lowered, by simpa using hlowered, rfl⟩

theorem Stage.Follows.nestedOrderBy (h : stage.Follows o)
    (hvisible : o.limited = true → o.ordersVisible target = true) :
    Ensures stage.level.OrderedBy (stage.nestedOrderBy target) := by
  unfold Stage.nestedOrderBy
  split
  · rename_i hlimit
    exact h.orderBy (hvisible (h.limited hlimit))
  · exact .pure (List.forall_mem_nil _)

end Expressions

/-! ## Steps -/

section Steps

variable {target : Target} {tables : TableName → List String} {stage next : Stage} {o : Outline}

theorem Stage.Follows.isScoped_nested (h : stage.Follows o) (hlevel : stage.level.IsScoped tables)
    (hvisible : o.limited = true → o.ordersVisible target = true)
    (hnested : stage.Nested target next) : next.level.IsScoped tables := by
  obtain @⟨order, label, hordered⟩ := hnested
  have hterms := (h.nestedOrderBy hvisible).of_yields hordered
  exact .ofSource (hlevel.mem_outputs order) (hlevel.toSelect hterms)

theorem Stage.Follows.isScoped_side (h : stage.Follows o) (hlevel : stage.level.IsScoped tables)
    (hvisible : o.limited = true → o.ordersVisible target = true) (label : String) :
    Ensures (Join.IsScopedSide tables label) (Join.side target stage label) := by
  unfold Join.side
  split
  · rename_i hbare
    exact .pure ⟨rfl, hlevel.mem_bareTable hbare, nofun⟩
  · refine .bind (h.nestedOrderBy hvisible) (fun order horder ↦ .pure ?_)
    exact ⟨rfl, hlevel.mem_outputs order, hlevel.toSelect horder⟩

theorem Stage.Follows.isScoped_summaries (h : stage.Follows o)
    (hlevel : stage.level.IsScoped tables) {columns : List (String × Host.Expr)}
    {done : Bindings Sql.Expr}
    (hcovers : o.coversSummaries target done.names columns = true)
    (hcarries : ∀ column ∈ columns, o.carries target false column.2 = true)
    (hdone : ∀ entry ∈ done, entry.2.isScoped (stage.level.body.fromColumns tables)
      (stage.level.body.sides tables) = true) :
    Ensures (fun summaries ↦ ∀ entry ∈ summaries, entry.2.isScoped
      (stage.level.body.fromColumns tables) (stage.level.body.sides tables) = true)
      (stage.summaries target done columns) := by
  induction columns generalizing done with
  | nil => exact .pure hdone
  | cons column later ih =>
    rw [Outline.coversSummaries, Bool.and_eq_true] at hcovers
    rw [List.forall_mem_cons] at hcarries
    refine .bind (h.lower hcovers.1 hcarries.1) (fun lowered hlowered ↦ ?_)
    refine ih ?_ hcarries.2 ?_
    · rw [Bindings.names_insert]
      exact hcovers.2
    · intro entry hentry
      rcases Bindings.mem_of_mem_insert hentry with hold | rfl
      · exact hdone entry hold
      · apply Sql.Expr.isScoped_inline hlowered
        · intro name definition hdefinition
          rcases Option.or_eq_some_iff.1 hdefinition with hget | ⟨-, hget⟩
          · exact hdone _ (Bindings.mem_of_get? hget)
          · exact hlevel.definitions _ (Bindings.mem_of_get? hget)
        · intro name hname hnone
          rw [Option.or_eq_none_iff, Bindings.get?_eq_none, Bindings.get?_eq_none] at hnone
          rcases List.mem_append.1 hname with hvisible | hearlier
          · exact absurd hvisible hnone.2
          · exact absurd hearlier hnone.1

/-- Visible groups are defined by columns of the source. -/
theorem Stage.isScoped_groupDefinition (hlevel : stage.level.IsScoped tables) {group : String}
    (hgroup : group ∈ stage.level.names) :
    (stage.groupDefinition group).isScoped (stage.level.body.fromColumns tables)
      (stage.level.body.sides tables) = true := by
  obtain ⟨definition, hdefinition⟩ := Option.isSome_iff_exists.1 (Bindings.get?_isSome.2 hgroup)
  rw [Stage.groupDefinition, hdefinition, Option.getD_some]
  exact hlevel.definitions _ (Bindings.mem_of_get? hdefinition)

theorem Stage.Follows.isScoped_summarise (h : stage.Follows o)
    (hlevel : stage.level.IsScoped tables) {columns : List (String × Host.Expr)}
    {summaries : Bindings Sql.Expr}
    (hmentions : (Verb.summarise columns).mentionsVisible target o = true)
    (hcarries : (Verb.summarise columns).carriesVisible target o = true)
    (hsummaries : (stage.summaries target [] columns).Yields summaries) :
    { stage.level with
      body := { stage.level.body with groups := stage.groups.map stage.groupDefinition }
      columns := Bindings.ofPairs
        (stage.groups.map (fun group ↦ (group, stage.groupDefinition group)) ++ summaries)
      summarised := true }.IsScoped tables := by
  simp only [Verb.carriesVisible, Bool.and_eq_true, List.all_eq_true] at hcarries
  have hgroups : ∀ group ∈ stage.groups, (stage.groupDefinition group).isScoped
      (stage.level.body.fromColumns tables) (stage.level.body.sides tables) = true := by
    intro group hgroup
    apply Stage.isScoped_groupDefinition hlevel
    rw [h.groups] at hgroup
    rw [h.names]
    simpa using List.all_eq_true.1 hcarries.1 group hgroup
  have hcovers : o.coversSummaries target (Bindings.names ([] : Bindings Sql.Expr)) columns =
      true := hmentions
  have hdefined := (h.isScoped_summaries hlevel hcovers hcarries.2
    (List.forall_mem_nil _)).of_yields hsummaries
  have hcolumns : ∀ entry ∈ Bindings.ofPairs
      (stage.groups.map (fun group ↦ (group, stage.groupDefinition group)) ++ summaries),
        entry.2.isScoped (stage.level.body.fromColumns tables)
          (stage.level.body.sides tables) = true := by
    intro entry hentry
    rcases List.mem_append.1 (Bindings.mem_of_mem_ofPairs hentry) with hgroup | hsummary
    · obtain ⟨group, hmem, rfl⟩ := List.mem_map.1 hgroup
      exact hgroups group hmem
    · exact hdefined entry hsummary
  have hold := hlevel.of_mem_conditions
  simp only [List.forall_mem_append] at hold
  have hbody : { stage.level with
      body := { stage.level.body with
        groups := stage.groups.map stage.groupDefinition } }.IsScoped tables := by
    refine hlevel.withConditions ?_
    simp only [List.forall_mem_append, List.forall_mem_map]
    exact ⟨⟨hold.1.1, hgroups⟩, hold.2⟩
  exact ⟨hbody.source, hcolumns, hbody.conditions, hbody.sources⟩

theorem Outline.carries_of_windowed {e : Host.Expr} (h : o.carries target true e = true) :
    o.carries target false e = true := by
  have hopens {function : String} (hfalse : (o.context target false).opens function = true) :
      (o.context target true).opens function = true := by
    obtain ⟨rule, hrule, hkind⟩ := List.any_eq_true.1 hfalse
    exact List.any_eq_true.2 ⟨rule, hrule, by
      simp_all [Lowering.opensWindow, Outline.context]⟩
  have hconsults {function : String} (hfalse : (o.context target false).consults function = true) :
      (o.context target true).consults function = true := by
    obtain ⟨rule, hrule, hkind⟩ := List.any_eq_true.1 hfalse
    exact List.any_eq_true.2 ⟨rule, hrule, by
      simp_all [Lowering.usesOrder, Outline.context]⟩
  simp only [Outline.carries, Bool.and_eq_true, Bool.or_eq_true, Bool.not_eq_true',
    List.any_eq_false] at h ⊢
  exact ⟨h.1.imp_left (fun hno function hfunction hyes ↦ hno function hfunction (hopens hyes)),
    h.2.imp_left (fun hno function hfunction hyes ↦ hno function hfunction (hconsults hyes))⟩

theorem Stage.Follows.isScoped_acts (h : stage.Follows o) (hlevel : stage.level.IsScoped tables)
    {verb : Verb} (hmentions : verb.mentionsVisible target o = true)
    (hcarries : verb.carriesVisible target o = true) (hacts : verb.Acts target stage next) :
    next.level.IsScoped tables := by
  cases hacts with
  | pick opened known =>
    refine hlevel.withColumns ?_
    intro entry hentry
    obtain ⟨old, hold, heq⟩ := Level.mem_pickedColumns hentry
    rw [← heq]
    exact hlevel.definitions old hold
  | filterRows opened rows windowless lowered apart plain =>
    exact hlevel.addFilter (hlevel.resolve (h.over_of_yields hmentions hcarries lowered))
  | @filterWindows predicate condition rest windows order label opened rows windowless lowered apart
      taken ordered =>
    have hover := h.over_of_yields hmentions hcarries lowered
    have htakes : Takes stage.level.names [] windows [condition] [rest] := by
      simpa [taken] using takes_takeWindows stage.level.names condition []
    have horder : Ensures (· = []) ({ stage with
        level := stage.level.setWindows windows }.nestedOrderBy target) := by
      rw [Stage.nestedOrderBy, stage.level.body_setWindows, h.unlimited opened]
      exact .pure rfl
    rw [horder.of_yields ordered]
    exact hlevel.filterWindows htakes h.nodup hover
  | filterGroups opened groups lowered plain =>
    have hover := h.over_of_yields hmentions (Outline.carries_of_windowed hcarries) lowered
    exact hlevel.addHaving (hlevel.resolve hover)
  | @mutate name e lowered opened rows lowers apart =>
    exact hlevel.setColumn (h.over_of_yields hmentions hcarries lowers) name
  | summarise opened rows windowless apart defined =>
    exact h.isScoped_summarise hlevel hmentions hcarries defined
  | distinct opened => exact hlevel.close true _
  | @head count opened => exact hlevel.close _ (some count)
  | arrange | groupBy | ungroup | windowOrder | windowFrame | collapse => exact hlevel

theorem Stage.Follows.isScoped_joined {left right : Stage} {leftOutline rightOutline : Outline}
    (hleft : left.Follows leftOutline) (hleftLevel : left.level.IsScoped tables)
    (hleftVisible : leftOutline.limited = true → leftOutline.ordersVisible target = true)
    (hright : right.Follows rightOutline) (hrightLevel : right.level.IsScoped tables)
    (hrightVisible : rightOutline.limited = true → rightOutline.ordersVisible target = true)
    {type : JoinType} {keys : List (String × String)} {suffixes : String × String}
    (hjoined : Stage.Joined target type keys suffixes left right next) :
    next.level.IsScoped tables := by
  obtain @⟨leftSide, rightSide, hknown, hleftMade, hrightMade⟩ := hjoined
  have hkeys : ∀ key ∈ keys, key.1 ∈ leftSide.2 ∧ key.2 ∈ rightSide.2 := by
    rw [Join.side_names.of_yields hleftMade, Join.side_names.of_yields hrightMade]
    exact Join.keys_known hknown
  exact Join.isScoped_level
    ((hleft.isScoped_side hleftLevel hleftVisible Join.leftLabel).of_yields hleftMade)
    ((hright.isScoped_side hrightLevel hrightVisible Join.rightLabel).of_yields hrightMade)
    hkeys target.dialect type suffixes

end Steps

/-! ## Whole plans -/

/-- The verbs of a plan mention what is visible and carry what is visible, and the tables have the
columns that are declared. -/
structure Plan.IsClear (target : Target) (tables : TableName → List String) (plan : Plan) :
    Prop where
  mentions : plan.mentionsVisible target = true
  carries : plan.carriesVisible target = true
  declared : ∀ entry ∈ plan.tables, ∀ column ∈ entry.2, column ∈ tables (.ofText entry.1)

section Plans

variable {target : Target} {tables : TableName → List String}

theorem Plan.IsClear.parent {plan : Plan} {verb : Verb}
    (h : (plan.andThen verb).IsClear target tables) : plan.IsClear target tables := by
  have hcarries := h.carries
  rw [Plan.carriesVisible, Bool.and_eq_true, Bool.and_eq_true] at hcarries
  exact ⟨(Bool.and_eq_true_iff.1 h.mentions).1, hcarries.1.1, h.declared⟩

theorem Plan.IsClear.sides {left right : Plan} {type : JoinType} {keys : List (String × String)}
    {suffixes : String × String} (h : (join left right type keys suffixes).IsClear target tables) :
    left.IsClear target tables ∧ right.IsClear target tables := by
  have hmentions := Bool.and_eq_true_iff.1 h.mentions
  have hcarries := Bool.and_eq_true_iff.1 h.carries
  have hdeclared := List.forall_mem_append.1 h.declared
  exact ⟨⟨hmentions.1, hcarries.1, hdeclared.1⟩, ⟨hmentions.2, hcarries.2, hdeclared.2⟩⟩

/-- Where a limit depends on the order of rows, the order is visible. -/
theorem Plan.IsClear.ordersVisible {plan : Plan} (h : plan.IsClear target tables)
    (hlimited : plan.outline.limited = true) : plan.outline.ordersVisible target = true := by
  cases plan with
  | table name columns => cases hlimited
  | andThen parent verb =>
    have hcarries := h.carries
    rw [Plan.carriesVisible, Bool.and_eq_true, Bool.or_eq_true] at hcarries
    have hlimited' : (verb.outline parent.outline).limited = true := hlimited
    exact hcarries.2.resolve_left (by simp [hlimited'])
  | join left right type keys suffixes => cases hlimited

/-- The stages of a clear plan are scoped. -/
theorem Plan.build_isScoped (target : Target) (tables : TableName → List String) (plan : Plan) :
    Ensures (fun stage ↦ stage.Follows plan.outline ∧
      (plan.IsClear target tables → stage.level.IsScoped tables)) (plan.build target) := by
  apply Plan.build_ensures fun plan stage ↦ stage.Follows plan.outline ∧
    (plan.IsClear target tables → stage.level.IsScoped tables)
  · intro name columns
    refine ⟨(Plan.build_follows target (.table name columns)).of_yields ⟨{}, {}, rfl⟩, ?_⟩
    intro hclear
    exact .ofSource (hclear.declared _ (List.mem_singleton_self _)) nofun
  · rintro plan stage next ⟨hfollows, hscoped⟩ hnested
    refine ⟨hfollows.nested hnested, ?_⟩
    intro hclear
    exact hfollows.isScoped_nested (hscoped hclear) hclear.ordersVisible hnested
  · rintro plan verb stage next ⟨hfollows, hscoped⟩ hacts
    refine ⟨hfollows.acts hacts, ?_⟩
    intro hclear
    have hcarries := hclear.carries
    rw [Plan.carriesVisible, Bool.and_eq_true, Bool.and_eq_true] at hcarries
    exact hfollows.isScoped_acts (hscoped hclear.parent) (Bool.and_eq_true_iff.1 hclear.mentions).2
      hcarries.1.2 hacts
  · rintro left right type keys suffixes leftStage rightStage next hleft hright hjoined
    refine ⟨hleft.1.joined hright.1 hjoined, ?_⟩
    intro hclear
    obtain ⟨hclearLeft, hclearRight⟩ := hclear.sides
    exact hleft.1.isScoped_joined (hleft.2 hclearLeft) hclearLeft.ordersVisible hright.1
      (hright.2 hclearRight) hclearRight.ordersVisible hjoined

/-- The statements in the conditions of semi and anti joins see the left side around them. -/
theorem Plan.tests_isScoped {plan : Plan} (hclear : plan.IsClear target tables)
    {left : Sql.Source} {test : Sql.Select} (htest : plan.Tests target left test) :
    test.isScoped tables [(Join.leftLabel, left.columns tables)] = true ∧
      ∀ s ∈ test.sources, s.isScoped tables [] = true := by
  obtain ⟨⟨leftPlan, rightPlan, keys⟩, hmem, leftStage, rightStage, leftSide, rightSide, hleftStage,
    hrightStage, hknown, hleftMade, hrightMade, rfl, rfl⟩ := htest
  have hclears := Plan.of_mem_tests (Plan.IsClear target tables) (fun _ _ h ↦ h.parent)
    (fun _ _ _ _ _ h ↦ h.sides) hclear hmem
  have hsideOf {side : Plan} (hside : side.IsClear target tables) {stage : Stage}
      (hstage : (side.build target).Yields stage) (label : String) :
      Ensures (Join.IsScopedSide tables label) (Join.side target stage label) := by
    obtain ⟨hfollows, hscoped⟩ := (Plan.build_isScoped target tables side).of_yields hstage
    exact hfollows.isScoped_side (hscoped hside) hside.ordersVisible label
  have hleft := (hsideOf hclears.1 hleftStage Join.leftLabel).of_yields hleftMade
  have hright := (hsideOf hclears.2 hrightStage Join.rightLabel).of_yields hrightMade
  have hkeys : ∀ key ∈ keys, key.1 ∈ leftSide.2 ∧ key.2 ∈ rightSide.2 := by
    rw [Join.side_names.of_yields hleftMade, Join.side_names.of_yields hrightMade]
    exact Join.keys_known hknown
  refine ⟨Join.isScoped_matching hleft hright hkeys, ?_⟩
  simpa [Sql.SelectFrom.sources, Sql.matching, Sql.statementsOfJoins] using hright.statements

end Plans

/-- Compiled queries are well scoped. If the expressions of a query mention what is visible, and the
groups and orderings that it carries are visible where they are used, then every statement that it
is compiled to mentions only columns that it sees, at any depth. The statements in the conditions of
semi and anti joins see the left side around them. -/
theorem Query.compiled_well_scoped {target : Target} {query : Query} {compiled : Compiled}
    {tables : TableName → List String} (hmentions : query.plan.mentionsVisible target = true)
    (hcarries : query.plan.carriesVisible target = true)
    (hordered : query.plan.outline.ordersVisible target = true)
    (hdeclared : ∀ entry ∈ query.plan.tables, ∀ column ∈ entry.2,
      column ∈ tables (.ofText entry.1))
    (h : query.compile target = .ok compiled) :
    ∃ select progress,
      (query.toSelect target).run {} = .ok ((select, compiled.columns), progress) ∧
        compiled.sql = select.render target.dialect ∧
          (∀ s ∈ Sql.statementsOf select, s.isScoped tables [] = true) ∧
            ∀ left test, query.plan.Tests target left test →
              test.isScoped tables [(Join.leftLabel, left.columns tables)] = true ∧
                ∀ s ∈ test.sources, s.isScoped tables [] = true := by
  have hclear : query.plan.IsClear target tables := ⟨hmentions, hcarries, hdeclared⟩
  obtain ⟨⟨⟨select, columns⟩, progress⟩, hselect, hcompiled⟩ := bind_eq_ok.1 h
  cases hcompiled
  refine ⟨select, progress, hselect, rfl, ?_, fun _ _ htest ↦ Plan.tests_isScoped hclear htest⟩
  have hresult : Ensures (fun result ↦ ∀ s ∈ Sql.statementsOf result.1,
      s.isScoped tables [] = true) (query.toSelect target) := by
    rw [Query.toSelect, Query.build_eq_plan]
    refine .bind (query.plan.build_isScoped target tables) ?_
    rintro stage ⟨hfollows, hscoped⟩
    refine .bind (hfollows.orderBy hordered) (fun order horder ↦ .pure ?_)
    exact (hscoped hclear).toSelect horder
  exact hresult {} (select, columns) progress hselect

/-- The largest of the first three running totals that are above a local bound, for each active
user. The order of the windows and of the rows is used below the end. -/
def runningTotals : Query :=
  let total := Host.Expr.call "cumsum" [.symbol "n"] []
  let isLarge := Host.Expr.call ">" [.symbol "total", .symbol "k"] []
  let visits := (((Query.table "visits" ["user", "day", "n"]).groupBy ["user"]).windowOrder
    [.symbol "day"]).mutate [("total", total)]
  let named := Query.join (visits.filter [isLarge]) (.table "users" ["user", "name"]) .left
    [("user", "user")] Query.defaultSuffixes
  let active := Query.join named (.table "active" ["user"]) .semi [("user", "user")]
    Query.defaultSuffixes
  ((active.arrange [.symbol "day"]).head 3).summarise [("total", .call "max" [.symbol "total"] [])]

def runningTotals.target : Target where
  dialect := .ansi
  env := [("k", .ofLiteral (.integer (some 3)))]
  now := ⟨⟨2000, 1, 1⟩, 0, 0, 0⟩

def runningTotals.tables (table : TableName) : List String :=
  match table.name with
  | "visits" => ["user", "day", "n"]
  | "users" => ["user", "name"]
  | "active" => ["user"]
  | _ => []

open runningTotals in
theorem Query.compiled_well_scoped_runningTotals :
    ∃ compiled select progress, runningTotals.compile target = .ok compiled ∧
      (runningTotals.toSelect target).run {} = .ok ((select, compiled.columns), progress) ∧
        runningTotals.plan.mentionsVisible target = true ∧
          runningTotals.plan.carriesVisible target = true ∧
            runningTotals.plan.outline.ordersVisible target = true ∧
              (∀ s ∈ Sql.statementsOf select, s.isScoped tables [] = true) ∧
                ∀ left test, runningTotals.plan.Tests target left test →
                  test.isScoped tables [("LHS", left.columns tables)] = true := by
  have hok : (runningTotals.compile target).isOk = true := by decide +kernel
  obtain ⟨compiled, hcompiled⟩ : ∃ compiled, runningTotals.compile target = .ok compiled := by
    cases h : runningTotals.compile target with
    | ok compiled => exact ⟨compiled, rfl⟩
    | error e => simp [h, Except.isOk, Except.toBool] at hok
  have hmentions : runningTotals.plan.mentionsVisible target = true := by decide +kernel
  have hcarries : runningTotals.plan.carriesVisible target = true := by decide +kernel
  have hordered : runningTotals.plan.outline.ordersVisible target = true := by decide +kernel
  have hdeclared : ∀ entry ∈ runningTotals.plan.tables, ∀ column ∈ entry.2,
      column ∈ tables (.ofText entry.1) := by decide +kernel
  obtain ⟨select, progress, hselect, -, hscoped, htests⟩ :=
    Query.compiled_well_scoped hmentions hcarries hordered hdeclared hcompiled
  exact ⟨compiled, select, progress, hcompiled, hselect, hmentions, hcarries, hordered, hscoped,
    fun left test htest ↦ (htests left test htest).1⟩

end SqlVerbs
