import SqlVerbs.Proofs.Query.ReadLevels
import SqlVerbs.Proofs.Sql.CarriedValues

/-!
# Columns that verbs carry over

What a column is after a verb, if it was a column before, and that it has the same values then:
every row after the verb takes them over from one row before it. A verb may keep some rows only,
order and nest them, give columns other names and write other columns.
-/

namespace SqlVerbs

open Compile (Ensures Yields)
open Sql (Engine Env Row TableName)

/-! ## Columns that one level carries over from another -/

theorem Level.get?_ofSource {source : Sql.Source} {names : List String} {name : String}
    (h : name ∈ names) : (ofSource source names).columns.get? name = some (.column name) := by
  have hnames : name ∈ (ofSource source names).names := by
    rw [names_ofSource, mem_dedup]
    exact h
  obtain ⟨definition, hdefinition⟩ := Option.isSome_iff_exists.1 (Bindings.get?_isSome.2 hnames)
  obtain ⟨_, -, heq⟩ := mem_columns_ofSource (Bindings.mem_of_get? hdefinition)
  cases heq
  exact hdefinition

section Levels

variable {V : Type} {E : Engine V} {null : V} (hE : E.IsLawful null)
  {tables : TableName → List (Row V)} {level next : Level}

namespace Level

/-- The column has this definition at both levels, under its names there. -/
def SharesDefinition (level next : Level) (name source : String) (definition : Sql.Expr) : Prop :=
  next.columns.get? name = some definition ∧ level.columns.get? source = some definition

/-- The second level has other columns or last clauses, but the rows and groups of the first one. -/
structure Rewritten (level next : Level) : Prop where
  source : next.body.source = level.body.source
  joins : next.body.joins = level.body.joins
  filters : next.body.filters = level.body.filters
  groups : next.body.groups = level.body.groups
  having : next.body.having = level.body.having
  summarised : next.summarised = level.summarised

/-- The second level has more conditions. Those on rows would change the groups of a summary. -/
structure Narrowed (level next : Level) (onRows onGroups : List Sql.Expr) : Prop where
  source : next.body.source = level.body.source
  joins : next.body.joins = level.body.joins
  groups : next.body.groups = level.body.groups
  filters : next.body.filters = level.body.filters ++ onRows
  having : next.body.having = level.body.having ++ onGroups
  summarised : next.summarised = level.summarised
  apart : level.summarised = true → onRows = []

include hE

/-- Where every group of rows of the second level is one of the first level, the columns with the
same definitions are carried over. A definition with windows needs the same windows, too. -/
theorem carries_of_places {pairs : String → String → Prop} {order order' : List Sql.Expr}
    (hdistinct : level.body.distinct = false) (hlimit : level.body.limit = none)
    (hsource : next.body.source = level.body.source) (hjoins : next.body.joins = level.body.joins)
    (hgrouped : E.isGrouped (next.toSelect order') = E.isGrouped (level.toSelect order))
    (hplace : ∀ rows i unit, (E.units (next.toSelect order') rows)[i]? = some unit →
      ∃ j, (E.units (level.toSelect order) rows)[j]? = some unit ∧
        ∀ name source, pairs name source →
          ∃ definition, level.SharesDefinition next name source definition ∧
            (definition.isWindowed = true →
              E.windowed definition (E.units (next.toSelect order') rows) i =
                E.windowed definition (E.units (level.toSelect order) rows) j)) :
    E.Carries tables pairs (level.toSelect order) (next.toSelect order') := by
  intro row hrow
  rw [E.rows_eq, E.answer_eq] at hrow
  obtain ⟨i, unit, hunit, rfl⟩ := E.mem_project.1 (hE.mem_of_mem_finish hrow)
  obtain ⟨j, hunit', hpairs⟩ := hplace _ i unit hunit
  let fromRows := E.joinedRows tables (E.sourceRows tables level.body.source) level.body.joins
  have hfrom : E.joinedRows tables (E.sourceRows tables (next.toSelect order').source)
      (next.toSelect order').joins = fromRows := by
    change E.joinedRows tables (E.sourceRows tables next.body.source) next.body.joins = _
    rw [hsource, hjoins]
  rw [hfrom] at hunit' hpairs
  refine ⟨E.output (E.atPlace (E.isGrouped (level.toSelect order))
    (E.units (level.toSelect order) fromRows) j unit) level.selectList, ?_, ?_⟩
  · rw [E.rows_eq, E.answer_eq]
    exact hE.mem_finish (show (level.toSelect order).distinct = false from hdistinct)
      (show (level.toSelect order).limit = none from hlimit)
      (E.mem_project.2 ⟨j, unit, hunit', rfl⟩)
  · intro name source hpair
    obtain ⟨definition, ⟨hname, hsource⟩, hwindowed⟩ := hpairs name source hpair
    calc E.output _ next.selectList name
        = E.atPlace _ (E.units (next.toSelect order') _) i unit definition :=
          output_selectList E hname _
      _ = E.atPlace _ (E.units (level.toSelect order) fromRows) j unit definition := by
        rw [Engine.atPlace, Engine.atPlace, hgrouped, hfrom]
        split
        · rename_i hwindow
          exact hwindowed hwindow
        · rfl
      _ = E.output _ level.selectList source := (output_selectList E hsource _).symm

/-- Without a limit, the order does not matter for which rows there are. -/
theorem mem_rows_toSelect (hlimit : level.body.limit = none) (order order' : List Sql.Expr)
    {row : Row V} (hrow : row ∈ E.rows tables (level.toSelect order')) :
    row ∈ E.rows tables (level.toSelect order) := by
  have hlast := @Engine.IsLawful.mem_finish_iff V E null hE Sql.Source
    (level.toSelect order) (level.toSelect order') rfl hlimit hlimit
  rw [E.rows_eq, E.answer_eq] at hrow ⊢
  exact hlast.1 hrow

/-- Over the same rows, columns with the same definitions are carried over, whichever other columns
there are and whichever rows are dropped in the end. -/
theorem carries_rewritten {order order' : List Sql.Expr}
    (hdistinct : level.body.distinct = false) (hlimit : level.body.limit = none)
    (h : level.Rewritten next)
    (hgrouped : E.isGrouped (next.toSelect order') = E.isGrouped (level.toSelect order)) :
    E.Carries tables (fun name source ↦ ∃ definition,
      level.SharesDefinition next name source definition)
      (level.toSelect order) (next.toSelect order') := by
  apply carries_of_places hE hdistinct hlimit h.source h.joins hgrouped
  intro rows i unit hunit
  have hunits : E.units (next.toSelect order') rows = E.units (level.toSelect order) rows := by
    rw [Engine.units, Engine.units, hgrouped]
    change E.unitsOf _ next.body.filters next.body.groups next.body.having rows = _
    rw [h.filters, h.groups, h.having]
    rfl
  rw [hunits] at hunit ⊢
  refine ⟨i, hunit, ?_⟩
  rintro name source ⟨definition, hshares⟩
  exact ⟨definition, hshares, fun _ ↦ rfl⟩

/-- Under more conditions, columns without windows are carried over. -/
theorem carries_narrowed {order order' : List Sql.Expr}
    (hdistinct : level.body.distinct = false) (hlimit : level.body.limit = none)
    {onRows onGroups : List Sql.Expr} (h : level.Narrowed next onRows onGroups)
    (hgrouped : E.isGrouped (next.toSelect order') = E.isGrouped (level.toSelect order))
    (hapart : E.isGrouped (level.toSelect order) = true → onRows = []) :
    E.Carries tables (fun name source ↦ ∃ definition,
      level.SharesDefinition next name source definition ∧ definition.isWindowed = false)
      (level.toSelect order) (next.toSelect order') := by
  apply carries_of_places hE hdistinct hlimit h.source h.joins hgrouped
  intro rows i unit hunit
  have hmem : unit ∈ E.units (level.toSelect order) rows := by
    have hunit' := List.mem_of_getElem? hunit
    rw [Engine.units, hgrouped] at hunit'
    change unit ∈ E.unitsOf _ next.body.filters next.body.groups next.body.having rows at hunit'
    rw [h.filters, h.groups, h.having] at hunit'
    exact E.mem_unitsOf_of_narrowed hapart hunit'
  obtain ⟨j, hj⟩ := List.mem_iff_getElem?.1 hmem
  refine ⟨j, hj, ?_⟩
  rintro name source ⟨definition, hshares, hwindowless⟩
  exact ⟨definition, hshares, fun hwindowed ↦ absurd (hwindowless.symm.trans hwindowed) (by simp)⟩

/-- A level over another one has its rows. -/
theorem carries_nested (hnodup : level.names.Nodup) (order order' : List Sql.Expr)
    (label : String) :
    E.Carries tables Eq (level.toSelect order)
      ((ofSource (.subquery (level.toSelect order) label) level.names).toSelect order') := by
  have hstar : ((ofSource (.subquery (level.toSelect order) label) level.names).toSelect
      order').items = .star := selectList_ofSource hnodup _
  intro row hrow
  rw [E.rows_eq, E.answer_eq] at hrow
  obtain ⟨i, unit, hunit, rfl⟩ := E.mem_project.1 (hE.mem_of_mem_finish hrow)
  have hgrouped : E.isGrouped ((ofSource (.subquery (level.toSelect order) label)
      level.names).toSelect order') = false := by
    rw [Engine.isGrouped, hstar]
    rfl
  rw [Engine.units, hgrouped] at hunit
  obtain ⟨env, henv, rfl⟩ := List.mem_map.1 (List.mem_of_getElem? hunit)
  have hsource : env ∈ (E.rows tables (level.toSelect order)).map (E.labelled (some label)) := by
    have hmem := List.mem_of_mem_filter henv
    change env ∈ E.joinedRows tables
      (E.sourceRows tables (.subquery (level.toSelect order) label)) [] at hmem
    rwa [Engine.joinedRows, Engine.sourceRows] at hmem
  obtain ⟨old, hold, rfl⟩ := List.mem_map.1 hsource
  refine ⟨old, hold, ?_⟩
  rintro name _ rfl
  rw [hgrouped, hstar]
  rfl

omit hE in
theorem get?_setWindows {windows : Windows} {name : String} (h : name ∉ windows.map Prod.fst) :
    (level.setWindows windows).columns.get? name = level.columns.get? name := by
  induction windows generalizing level with
  | nil => rfl
  | cons window later ih =>
    rw [List.map_cons, List.mem_cons, not_or] at h
    calc (level.setWindows (window :: later)).columns.get? name
        = ((level.setColumn window.1 (level.resolve true window.2)).setWindows
            later).columns.get? name := rfl
      _ = (level.setColumn window.1 (level.resolve true window.2)).columns.get? name := ih h.2
      _ = level.columns.get? name := Bindings.get?_insert_of_ne _ _ (Ne.symm h.1)

/-- Columns stay as they are where windows become columns next to them, of a level below, and are
dropped after a condition on them. -/
theorem carries_hoisted (hread : level.IsRead E) (hordinary : level.IsOrdinary)
    (hopen : level.closed = false) (hrows : level.summarised = false) {windows : Windows}
    (hwindows : ∀ w ∈ windows, w.2.IsRowwise E)
    (hnodup : (level.names ++ windows.map Prod.fst).Nodup) (order inner order' : List Sql.Expr)
    (label : String) (rest : Sql.Expr) :
    E.Carries tables (fun name source ↦ name = source ∧ name ∈ level.names)
      (level.toSelect order)
      ((((ofSource (.subquery ((level.setWindows windows).toSelect inner) label)
        (level.setWindows windows).names).addFilter rest).keepOnly level.names).toSelect
          order') := by
  have hset : level.setWindows windows =
      { level with columns := (level.setWindows windows).columns } := level.setWindows_eq windows
  have hsetRead : (level.setWindows windows).IsRead E := hread.setWindows hE hrows hwindows
  have hsetOrdinary : (level.setWindows windows).IsOrdinary := by
    rw [hset]
    exact ⟨hordinary.unfinished, hordinary.having, hordinary.groups⟩
  have hnames := names_setWindows hnodup
  -- The level with windows as columns,
  have hwritten : E.Carries tables (fun name source ↦ ∃ definition,
      level.SharesDefinition (level.setWindows windows) name source definition)
      (level.toSelect order) ((level.setWindows windows).toSelect inner) := by
    refine carries_rewritten hE (hordinary.unfinished hopen).1 (hordinary.unfinished hopen).2 ?_ ?_
    · rw [hset]
      exact ⟨rfl, rfl, rfl, rfl, rfl, rfl⟩
    · rw [hsetRead.isGrouped hsetOrdinary, hread.isGrouped hordinary, hset]
  -- another one over it,
  have hnested : E.Carries tables Eq ((level.setWindows windows).toSelect inner)
      ((ofSource (.subquery ((level.setWindows windows).toSelect inner) label)
        (level.setWindows windows).names).toSelect []) :=
    carries_nested hE (hnames ▸ hnodup) inner [] label
  -- and this one under a condition and without the windows.
  let outer := ofSource (.subquery ((level.setWindows windows).toSelect inner) label)
    (level.setWindows windows).names
  have houter : outer.IsRead E := .ofSource hE _ _
  have hkept : E.Carries tables (fun name source ↦ ∃ definition,
      outer.SharesDefinition ((outer.addFilter rest).keepOnly level.names) name source definition ∧
        definition.isWindowed = false)
      (outer.toSelect []) (((outer.addFilter rest).keepOnly level.names).toSelect order') := by
    have hrest : ((outer.addFilter rest).keepOnly level.names).IsRead E :=
      houter.of_definitions rfl rfl fun entry hentry ↦ ⟨entry, List.mem_of_mem_filter hentry, rfl⟩
    have hordinary' : ((outer.addFilter rest).keepOnly level.names).IsOrdinary :=
      ⟨fun _ ↦ ⟨rfl, rfl⟩, fun _ ↦ rfl, fun _ ↦ rfl⟩
    have hgrouped := houter.isGrouped (.ofSource _ _) []
    have hnarrowed : outer.Narrowed ((outer.addFilter rest).keepOnly level.names) [rest] [] :=
      ⟨rfl, rfl, rfl, rfl, rfl, rfl, nofun⟩
    refine carries_narrowed hE rfl rfl hnarrowed ?_ (fun hgroups ↦ hnarrowed.apart ?_)
    · rw [hrest.isGrouped hordinary', hgrouped]
      rfl
    · exact hgrouped.symm.trans hgroups
  refine ((hwritten.trans hnested).trans hkept).mono ?_
  rintro name _ ⟨rfl, hname⟩
  have hcolumn : outer.columns.get? name = some (.column name) :=
    get?_ofSource (hnames ▸ List.mem_append_left _ hname)
  have hleft : ((outer.addFilter rest).keepOnly level.names).columns.get? name =
      some (.column name) :=
    (Bindings.get?_filter (by simpa using hname)).trans hcolumn
  obtain ⟨definition, hdefinition⟩ := Option.isSome_iff_exists.1 (Bindings.get?_isSome.2 hname)
  have hfresh : name ∉ windows.map Prod.fst :=
    fun hwindow ↦ (List.nodup_append.1 hnodup).2.2 name hname name hwindow rfl
  exact ⟨name, ⟨_, ⟨hleft, hcolumn⟩, rfl⟩, name, rfl, definition,
    (get?_setWindows hfresh).trans hdefinition, hdefinition⟩

end Level

end Levels

/-! ## Columns that verbs carry over -/

/-- The columns that are picked, as pairs of new and old name. Without the rest, visible groups that
are not listed stay in front. -/
def Outline.picked (o : Outline) (columns : List (String × String)) (keepRest : Bool) :
    List (String × String) :=
  if keepRest then o.columns.map (fun name ↦ ((Stage.newName? columns name).getD name, name))
  else
    Bindings.same (o.groups.filter (fun group ↦
      (Stage.newName? columns group).isNone && o.columns.contains group)) ++ columns

/-- The column before a verb that a column after it was. Of several columns that are picked under
one name, the last one is left; written and summarised columns were none. -/
def Verb.source? (o : Outline) (verb : Verb) (name : String) : Option String :=
  match verb with
  | .pick columns keepRest => (Bindings.ofPairs (o.picked columns keepRest)).get? name
  | .mutate written _ => if name ≠ written ∧ name ∈ o.columns then some name else none
  | .summarise _ => none
  | _ => if name ∈ o.columns then some name else none

/-- Does the verb start another level if the one before is closed? -/
def Verb.reopens : Verb → Bool
  | .pick .. | .filter _ | .arrange _ | .mutate .. | .distinct | .head _ | .collapse => true
  | .summarise _ | .groupBy _ | .ungroup | .windowOrder _ | .windowFrame _ => false

section Stages

variable {V : Type} {E : Engine V} {null : V} {target : Target} {stage next : Stage} {o : Outline}

/-- Where the columns of a pick were before. -/
theorem Stage.Follows.get?_picked (h : stage.Follows o) {columns : List (String × String)}
    {keepRest : Bool} (hknown : ∀ column ∈ columns, column.2 ∈ stage.level.names)
    {name source : String}
    (hsource : (Bindings.ofPairs (o.picked columns keepRest)).get? name = some source) :
    source ∈ o.columns ∧ (if keepRest then Stage.renamedColumns columns stage.level
      else Stage.pickedColumns columns stage.groups stage.level).get? name =
        stage.level.columns.get? source := by
  have hpairs : (if keepRest then Stage.renamedColumns columns stage.level
      else Stage.pickedColumns columns stage.groups stage.level) =
        Bindings.ofPairs (stage.level.columns.pick (o.picked columns keepRest)) := by
    rw [Outline.picked, ← h.names, ← h.groups]
    split
    · have hrenamed := Bindings.pick_names h.nodup
        (fun name ↦ (Stage.newName? columns name).getD name)
      exact congrArg Bindings.ofPairs hrenamed.symm
    · rw [Bindings.pick_append, ← Stage.unlistedGroups_eq]
      rfl
  have hvisible : ∀ column ∈ o.picked columns keepRest, column.2 ∈ stage.level.names := by
    rw [Outline.picked, ← h.names]
    split
    · simp
    · intro column hcolumn
      rcases List.mem_append.1 hcolumn with hgroup | hlisted
      · obtain ⟨group, hunlisted, rfl⟩ := List.mem_map.1 hgroup
        have hkept := (List.mem_filter.1 hunlisted).2
        simp only [Bool.and_eq_true, List.contains_iff_mem] at hkept
        exact hkept.2
      · exact hknown column hlisted
  refine ⟨h.names ▸ hvisible _ (Bindings.mem_of_mem_ofPairs (Bindings.mem_of_get? hsource)), ?_⟩
  rw [hpairs, Bindings.get?_ofPairs_pick hvisible, hsource, Option.bind_some]

theorem Stage.orderBy_settled (target : Target) (stage : Stage) :
    Compile.Settled (stage.orderBy target) :=
  (stage.orderBy_repeatable target).settled

/-- This is the order of the stage, or nothing depends on the order. -/
def Stage.Orders (target : Target) (stage : Stage) (order : List Sql.Expr) : Prop :=
  stage.level.body.limit = none ∨ (stage.orderBy target).Yields order

section Steps

variable (hE : E.IsLawful null) (tables : TableName → List (Row V))

include hE

/-- A nested statement has rows of the statement. -/
theorem Stage.Orders.mem_rows {order inner : List Sql.Expr} (horder : stage.Orders target order)
    (hinner : (stage.nestedOrderBy target).Yields inner) :
    ∀ row ∈ E.rows tables (stage.level.toSelect inner),
      row ∈ E.rows tables (stage.level.toSelect order) := by
  intro row hrow
  cases hlimit : stage.level.body.limit with
  | none => exact Level.mem_rows_toSelect hE hlimit order inner hrow
  | some count =>
    have hyields : (stage.orderBy target).Yields order := by
      apply horder.resolve_left
      simp [hlimit]
    have hinner' : (stage.orderBy target).Yields inner := by
      simpa [Stage.nestedOrderBy, hlimit] using hinner
    rwa [stage.orderBy_settled target order inner hyields hinner']

theorem Stage.carries_nested (hnodup : stage.level.names.Nodup) {order : List Sql.Expr}
    (horder : stage.Orders target order) (hnested : stage.Nested target next)
    (order' : List Sql.Expr) :
    E.Carries tables Eq (stage.level.toSelect order) (next.level.toSelect order') := by
  obtain @⟨inner, label, hinner⟩ := hnested
  intro row hrow
  obtain ⟨old, hold, hvalues⟩ := stage.level.carries_nested hE hnodup inner order' label row hrow
  exact ⟨old, horder.mem_rows hE tables hinner old hold, hvalues⟩

/-- What a stage becomes by nesting shows the columns of the stage. -/
theorem Stage.carries_nests (hfollows : stage.Follows o) {order : List Sql.Expr}
    (horder : stage.Orders target order) (hnests : stage.Nests target next) :
    ∃ order', next.Orders target order' ∧
      E.Carries tables Eq (stage.level.toSelect order) (next.level.toSelect order') := by
  induction hnests with
  | none =>
    refine ⟨order, horder, fun row hrow ↦ ⟨row, hrow, ?_⟩⟩
    rintro name _ rfl
    rfl
  | @more between next nests nested ih =>
    obtain ⟨order', horder', hcarries⟩ := ih
    have hbetween : between.Follows o := hfollows.nests nests
    have hnext := Stage.carries_nested hE tables hbetween.nodup horder' nested []
    refine ⟨[], ?_, (hcarries.trans hnext).mono ?_⟩
    · obtain ⟨-⟩ := nested
      exact .inl rfl
    · rintro name _ rfl
      exact ⟨name, rfl, rfl⟩

omit hE in
theorem Stage.Follows.exists_definition (h : stage.Follows o) {name : String}
    (hname : name ∈ o.columns) :
    ∃ definition, stage.level.columns.get? name = some definition := by
  rw [← h.names] at hname
  exact Option.isSome_iff_exists.1 (Bindings.get?_isSome.2 hname)

/-- A verb that does not summarise neither groups the rows of a level nor takes their groups
apart. -/
theorem Stage.isGrouped_acts (hfollows : stage.Follows o) (hordinary : stage.level.IsOrdinary)
    (hread : stage.level.IsRead E) {verb : Verb} (hrowwise : verb.IsRowwise E target o)
    (hacts : verb.Acts target stage next)
    (hsame : next.level.summarised = stage.level.summarised) (order order' : List Sql.Expr) :
    E.isGrouped (next.level.toSelect order') = E.isGrouped (stage.level.toSelect order) := by
  have hnext : next.level.IsRead E := Stage.isRead_acts hE hfollows hread hrowwise hacts
  rw [hread.isGrouped hordinary, hnext.isGrouped (Stage.isOrdinary_acts hordinary hacts), hsame]

/-- Without windows among the definitions, more conditions leave all columns as they were. -/
theorem Stage.carries_narrowed (hfollows : stage.Follows o) (hordinary : stage.level.IsOrdinary)
    (hread : stage.level.IsRead E) (hopen : stage.level.closed = false)
    {onRows onGroups : List Sql.Expr} (h : stage.level.Narrowed next.level onRows onGroups)
    (hcolumns : next.level.columns = stage.level.columns)
    (hwindowless : stage.level.hasWindows = false) {order order' : List Sql.Expr}
    (hgrouped : E.isGrouped (next.level.toSelect order') =
      E.isGrouped (stage.level.toSelect order)) :
    E.Carries tables (fun name source ↦ name ∈ o.columns ∧ name = source)
      (stage.level.toSelect order) (next.level.toSelect order') := by
  obtain ⟨hdistinct, hlimit⟩ := hordinary.unfinished hopen
  have hapart : E.isGrouped (stage.level.toSelect order) = true → onRows = [] :=
    fun hgroups ↦ h.apart ((hread.isGrouped hordinary order).symm.trans hgroups)
  refine (Level.carries_narrowed hE hdistinct hlimit h hgrouped hapart).mono ?_
  rintro name _ ⟨hname, rfl⟩
  obtain ⟨definition, hdefinition⟩ := hfollows.exists_definition hname
  exact ⟨definition, ⟨hcolumns ▸ hdefinition, hdefinition⟩,
    Level.isWindowed_of_get? hwindowless hdefinition⟩

/-- What a verb does to an open level leaves the columns that are still there as they were. -/
theorem Stage.carries_acts (hfollows : stage.Follows o) (hordinary : stage.level.IsOrdinary)
    (hread : stage.level.IsRead E) {verb : Verb} (hreopens : verb.reopens = true)
    (hrowwise : verb.IsRowwise E target o) (hacts : verb.Acts target stage next)
    (order order' : List Sql.Expr) :
    E.Carries tables (fun name source ↦ verb.source? o name = some source)
      (stage.level.toSelect order) (next.level.toSelect order') := by
  have hgrouped (hsame : next.level.summarised = stage.level.summarised) :
      E.isGrouped (next.level.toSelect order') = E.isGrouped (stage.level.toSelect order) :=
    Stage.isGrouped_acts hE hfollows hordinary hread hrowwise hacts hsame order order'
  -- All verbs but filters leave the rows alone, so it is enough to find the definitions again.
  have hrewritten (hopen : stage.level.closed = false)
      (hsame : stage.level.Rewritten next.level) (hshares : ∀ name source,
        verb.source? o name = some source →
          ∃ definition, stage.level.SharesDefinition next.level name source definition) :
      E.Carries tables (fun name source ↦ verb.source? o name = some source)
        (stage.level.toSelect order) (next.level.toSelect order') :=
    (Level.carries_rewritten hE (hordinary.unfinished hopen).1 (hordinary.unfinished hopen).2 hsame
      (hgrouped hsame.summarised)).mono hshares
  have hnarrowed {onRows onGroups : List Sql.Expr} (hopen : stage.level.closed = false)
      (hnext : stage.level.Narrowed next.level onRows onGroups)
      (hcolumns : next.level.columns = stage.level.columns)
      (hwindowless : stage.level.hasWindows = false) :
      E.Carries tables (fun name source ↦ name ∈ o.columns ∧ name = source)
        (stage.level.toSelect order) (next.level.toSelect order') :=
    Stage.carries_narrowed hE tables hfollows hordinary hread hopen hnext hcolumns hwindowless
      (hgrouped hnext.summarised)
  have hkept {predicate : Host.Expr} (name source : String)
      (hsource : (Verb.filter predicate).source? o name = some source) :
      name ∈ o.columns ∧ name = source := by
    simpa [Verb.source?] using hsource
  cases hacts with
  | @pick columns keepRest opened known =>
    apply hrewritten opened ⟨rfl, rfl, rfl, rfl, rfl, rfl⟩
    intro name source hsource
    obtain ⟨hold, hpicked⟩ := hfollows.get?_picked known hsource
    obtain ⟨definition, hdefinition⟩ := hfollows.exists_definition hold
    exact ⟨definition, hpicked.trans hdefinition, hdefinition⟩
  | filterRows opened rows windowless lowered apart plain =>
    refine (hnarrowed opened ⟨rfl, rfl, rfl, rfl, (List.append_nil _).symm, rfl, ?_⟩ rfl
      windowless).mono hkept
    exact fun hgroups ↦ absurd (rows.symm.trans hgroups) (by simp)
  | filterGroups opened groups lowered plain =>
    exact (hnarrowed opened ⟨rfl, rfl, rfl, (List.append_nil _).symm, rfl, rfl, fun _ ↦ rfl⟩ rfl
      (hread.groups groups).2).mono hkept
  | @filterWindows predicate condition rest windows inner label opened rows windowless lowered
      apart taken ordered =>
    have htakes : Takes stage.level.names [] windows [condition] [rest] := by
      simpa [taken] using takes_takeWindows stage.level.names condition []
    have hwindows : ∀ w ∈ windows, w.2.IsRowwise E := by
      intro w hw
      obtain ⟨hwindow, hpart⟩ : w.2.isWindow = true ∧ w.2 ∈ condition.parts := by
        simpa using htakes.windows w hw
      exact (hfollows.isRowwise hrowwise lowered).of_window hpart hwindow
    refine (Level.carries_hoisted hE hread hordinary opened rows hwindows
      (htakes.nodup (by simpa using hfollows.nodup)) order inner order' label rest).mono ?_
    intro name source hsource
    obtain ⟨hname, rfl⟩ := hkept name source hsource
    exact ⟨rfl, hfollows.names ▸ hname⟩
  | @mutate written e lowered opened rows lowers apart =>
    apply hrewritten opened ⟨rfl, rfl, rfl, rfl, rfl, rfl⟩
    intro name source hsource
    obtain ⟨⟨hother, hname⟩, rfl⟩ : (name ≠ written ∧ name ∈ o.columns) ∧ name = source := by
      simpa [Verb.source?] using hsource
    obtain ⟨definition, hdefinition⟩ := hfollows.exists_definition hname
    refine ⟨definition, ?_, hdefinition⟩
    exact (Bindings.get?_insert_of_ne _ _ (Ne.symm hother)).trans hdefinition
  | arrange opened | distinct opened | head opened | collapse opened =>
    apply hrewritten opened ⟨rfl, rfl, rfl, rfl, rfl, rfl⟩
    intro name source hsource
    obtain ⟨hname, rfl⟩ : name ∈ o.columns ∧ name = source := by
      simpa [Verb.source?] using hsource
    obtain ⟨definition, hdefinition⟩ := hfollows.exists_definition hname
    exact ⟨definition, hdefinition, hdefinition⟩
  | summarise | groupBy | ungroup | windowOrder | windowFrame => cases hreopens

/-- A verb leaves the columns that are still there after it as they were. -/
theorem Stage.carries_run (hfollows : stage.Follows o) (hordinary : stage.level.IsOrdinary)
    (hread : stage.level.IsRead E) {verb : Verb} (hreopens : verb.reopens = true)
    (hrowwise : verb.IsRowwise E target o) {order : List Sql.Expr}
    (horder : stage.Orders target order) :
    Ensures (fun next ↦ ∀ order',
      E.Carries tables (fun name source ↦ verb.source? o name = some source)
        (stage.level.toSelect order) (next.level.toSelect order')) (verb.run target stage) := by
  refine .mono (Verb.run_leads stage verb) ?_
  rintro next ⟨opened, hnests, hacts⟩ order'
  obtain ⟨between, -, hnested⟩ := Stage.carries_nests hE tables hfollows horder hnests
  have hacted := Stage.carries_acts hE tables (hfollows.nests hnests)
    (Stage.isOrdinary_nests hordinary hnests) (Stage.isRead_nests hE hread hnests) hreopens hrowwise
    hacts between order'
  refine (hnested.trans hacted).mono ?_
  intro name source hsource
  exact ⟨source, hsource, rfl⟩

end Steps

end Stages

end SqlVerbs
