import SqlVerbs.Proofs.Query.CarriedColumns
import SqlVerbs.Proofs.Sql.NestedLoops

/-!
# Groups

The groups of a query are names beside its columns. They are visible columns as long as no join
gives one of them a suffix, which the groups do not follow. A group has the values that it had
before a verb or a join unless another column takes its name: several columns may be picked under
one name, and the suffix of a column may make another column's name of it.
-/

namespace SqlVerbs

open Compile (Ensures Yields)
open Sql (Engine Env Row TableName)

/-! ## Which names are kept -/

/-- The name of a group after the verb. -/
def Verb.renamed (verb : Verb) (group : String) : String :=
  match verb with
  | .pick columns _ => (Stage.newName? columns group).getD group
  | _ => group

/-- Is the column with the name of the group after the verb the one that was the group before? -/
def Verb.keepsGroup (o : Outline) (verb : Verb) (group : String) : Bool :=
  match verb with
  | .pick columns keepRest =>
    (Bindings.ofPairs (o.picked columns keepRest)).get? (verb.renamed group) = some group
  | .mutate name _ => name ≠ group
  | _ => true

namespace Join

variable (type : JoinType) (keys : List (String × String)) (suffixes : String × String)
  (leftColumns rightColumns : List String)

/-- Does a left column keep its name? -/
def keepsName (name : String) : Bool :=
  (leftOutput type keys (rightKept keys rightColumns) suffixes.1 name).1 = name

/-- Does a left column keep its name, and no other column take it? -/
def keepsColumn (name : String) : Bool :=
  keepsName type keys suffixes rightColumns name &&
    leftColumns.all (fun other ↦ other = name ||
      (leftOutput type keys (rightKept keys rightColumns) suffixes.1 other).1 ≠ name) &&
    (rightKept keys rightColumns).all (fun other ↦
      (rightOutput leftColumns suffixes.2 other).1 ≠ name)

end Join

/-- Do the joins of a plan leave the names of all groups as they are? -/
def Plan.keepsGroupNames : Plan → Bool
  | .table _ _ => true
  | .andThen parent _ => parent.keepsGroupNames
  | .join left right type keys suffixes => left.keepsGroupNames && (type.isTest ||
    left.outline.groups.all (Join.keepsName type keys suffixes right.outline.columns))

/-! ## Groups are visible columns -/

section Names

variable {target : Target} {stage next : Stage} {o : Outline}

theorem Stage.groups_acts (hfollows : stage.Follows o)
    (h : ∀ group ∈ o.groups, group ∈ o.columns) {verb : Verb}
    (hacts : verb.Acts target stage next) :
    ∀ group ∈ (verb.outline o).groups, group ∈ (verb.outline o).columns := by
  cases hacts with
  | @pick columns keepRest opened known =>
    intro renamed hrenamed
    obtain ⟨group, hgroup, rfl⟩ := List.mem_map.1 hrenamed
    have hcolumn := h group hgroup
    rw [Verb.outline, mem_dedup]
    cases keepRest with
    | true => exact List.mem_map_of_mem hcolumn
    | false =>
      cases hnew : Stage.newName? columns group with
      | none => simp [hgroup, hcolumn, hnew]
      | some name =>
        obtain ⟨entry, hentry, rfl⟩ := Option.map_eq_some_iff.1 hnew
        exact List.mem_append_right _ (List.mem_map_of_mem (List.mem_of_find?_eq_some hentry))
  | @mutate name e =>
    intro group hgroup
    rw [Verb.outline]
    split
    · exact h group hgroup
    · exact List.mem_append_left _ (h group hgroup)
  | summarise =>
    intro group hgroup
    rw [Verb.outline, mem_dedup]
    exact List.mem_append_left _ (List.dropLast_subset _ hgroup)
  | groupBy known => exact fun group hgroup ↦ hfollows.names ▸ known group hgroup
  | ungroup => exact List.forall_mem_nil _
  | filterRows | filterGroups | filterWindows | arrange | distinct | head | collapse |
    windowOrder | windowFrame => exact h

theorem Outline.groups_join {left right : Outline} {type : JoinType}
    {keys : List (String × String)} {suffixes : String × String}
    (h : ∀ group ∈ left.groups, group ∈ left.columns)
    (hnames : type.isTest = true ∨
      ∀ group ∈ left.groups, Join.keepsName type keys suffixes right.columns group = true) :
    ∀ group ∈ (Outline.join type keys suffixes left right).groups,
      group ∈ (Outline.join type keys suffixes left right).columns := by
  intro group hgroup
  have hleft := h group hgroup
  rcases hnames with htest | hnames
  · simpa [Outline.join, htest] using hleft
  · have hname := hnames group hgroup
    rw [Outline.join]
    split
    · exact hleft
    · rw [Join.columns, Bindings.names_ofPairs, mem_dedup, List.map_append, List.mem_append]
      refine .inl (List.mem_map.2 ⟨_, List.mem_map_of_mem hleft, ?_⟩)
      simpa [Join.keepsName] using hname

end Names

/-- The groups of every stage of a plan are visible columns, if its joins leave their names. -/
theorem Plan.build_groups (target : Target) {plan : Plan} (h : plan.keepsGroupNames = true) :
    Ensures (fun stage ↦ ∀ group ∈ stage.groups, group ∈ stage.level.names)
      (plan.build target) := by
  have hall : Ensures (fun stage ↦ stage.Follows plan.outline ∧ (plan.keepsGroupNames = true →
      ∀ group ∈ plan.outline.groups, group ∈ plan.outline.columns)) (plan.build target) := by
    apply Plan.build_ensures fun plan stage ↦ stage.Follows plan.outline ∧
      (plan.keepsGroupNames = true → ∀ group ∈ plan.outline.groups, group ∈ plan.outline.columns)
    · intro name columns
      exact ⟨(Plan.build_follows target (.table name columns)).of_yields ⟨{}, {}, rfl⟩,
        fun _ ↦ List.forall_mem_nil _⟩
    · rintro plan stage next ⟨hfollows, hgroups⟩ hnested
      exact ⟨hfollows.nested hnested, hgroups⟩
    · rintro plan verb stage next ⟨hfollows, hgroups⟩ hacts
      exact ⟨hfollows.acts hacts, fun hnames ↦ Stage.groups_acts hfollows (hgroups hnames) hacts⟩
    · rintro left right type keys suffixes leftStage rightStage next ⟨hleft, hgroups⟩ ⟨hright, -⟩
        hjoined
      refine ⟨hleft.joined hright hjoined, fun hnames ↦ ?_⟩
      simp only [Plan.keepsGroupNames, Bool.and_eq_true, Bool.or_eq_true,
        List.all_eq_true] at hnames
      exact Outline.groups_join (hgroups hnames.1) hnames.2
  refine .mono hall ?_
  rintro stage ⟨hfollows, hgroups⟩
  rw [hfollows.groups, hfollows.names]
  exact hgroups h

/-! ## Groups that verbs carry over -/

section Verbs

variable {V : Type} (E : Engine V) (tables : TableName → List (Row V)) (target : Target)

/-- The groups of a stage are those of the next one under new names, and every row after it has the
values of those that are kept from one row before it. -/
def Stage.KeepsGroups (renamed : String → String) (kept : String → Bool) (stage next : Stage) :
    Prop :=
  next.groups = stage.groups.map renamed ∧ ∀ order order', stage.Orders target order →
    E.Carries tables
      (fun name group ↦ group ∈ stage.groups ∧ kept group = true ∧ name = renamed group)
      (stage.level.toSelect order) (next.level.toSelect order')

theorem Verb.groups_outline {o : Outline} {verb : Verb} (h : verb.reopens = true) :
    (verb.outline o).groups = o.groups.map verb.renamed := by
  cases verb with
  | pick => rfl
  | filter | arrange | mutate | distinct | head | collapse => exact (List.map_id _).symm
  | summarise | groupBy | ungroup | windowOrder | windowFrame => cases h

theorem Verb.source?_renamed {o : Outline} {verb : Verb} {group : String}
    (hreopens : verb.reopens = true) (hvisible : group ∈ o.columns)
    (h : verb.keepsGroup o group = true) :
    verb.source? o (verb.renamed group) = some group := by
  cases verb with
  | pick columns keepRest => simpa [Verb.keepsGroup, Verb.source?] using h
  | mutate name e =>
    have hne : group ≠ name := Ne.symm (by simpa [Verb.keepsGroup] using h)
    simp [Verb.source?, Verb.renamed, hne, hvisible]
  | filter | arrange | distinct | head | collapse => simp [Verb.source?, Verb.renamed, hvisible]
  | summarise | groupBy | ungroup | windowOrder | windowFrame => cases hreopens

variable {E target} {null : V} {stage : Stage} {o : Outline}

theorem Stage.run_keepsGroups (hE : E.IsLawful null) (hfollows : stage.Follows o)
    (hgroups : ∀ group ∈ stage.groups, group ∈ stage.level.names)
    (hordinary : stage.level.IsOrdinary) (hread : stage.level.IsRead E) {verb : Verb}
    (hreopens : verb.reopens = true) (hrowwise : verb.IsRowwise E target o) :
    Ensures (stage.KeepsGroups E tables target verb.renamed (verb.keepsGroup o))
      (verb.run target stage) := by
  intro progress next progress' hrun
  constructor
  · obtain ⟨opened, hnests, hacts⟩ := Verb.run_leads stage verb progress next progress' hrun
    have hnext := (hfollows.nests hnests).acts hacts
    rw [hnext.groups, Verb.groups_outline hreopens, hfollows.groups]
  · intro order order' horder
    have hcarries := Stage.carries_run hE tables hfollows hordinary hread hreopens hrowwise horder
      progress next progress' hrun order'
    refine hcarries.mono ?_
    rintro name group ⟨hgroup, hkept, rfl⟩
    exact Verb.source?_renamed hreopens (hfollows.names ▸ hgroups group hgroup) hkept

end Verbs

/-! ## Groups of joins -/

/-- A row of a level that is no summary has the values of its definitions for one row of the `FROM`
clause. -/
theorem Level.exists_env_of_mem_rows {V : Type} {E : Engine V} {null : V} (hE : E.IsLawful null)
    {tables : TableName → List (Row V)} {level : Level} {order : List Sql.Expr}
    (hgrouped : E.isGrouped (level.toSelect order) = false) {row : Row V}
    (hrow : row ∈ E.rows tables (level.toSelect order)) :
    ∃ env ∈ E.joinedRows tables (E.sourceRows tables level.body.source) level.body.joins,
      ∀ name definition, level.columns.get? name = some definition →
        definition.isWindowed = false → row name = E.inRow env definition := by
  rw [E.rows_eq, E.answer_eq] at hrow
  obtain ⟨i, unit, hunit, rfl⟩ := E.mem_project.1 (hE.mem_of_mem_finish hrow)
  rw [Engine.units, hgrouped] at hunit
  obtain ⟨env, henv, rfl⟩ := List.mem_map.1 (List.mem_of_getElem? hunit)
  refine ⟨env, List.mem_of_mem_filter henv, ?_⟩
  intro name definition hdefinition hwindowless
  calc E.output _ level.selectList name
      = E.atPlace _ _ i [env] definition := output_selectList E hdefinition _
    _ = E.inRow env definition := by
      rw [Engine.atPlace, hwindowless, hgrouped]
      rfl

namespace Join

variable {V : Type} {E : Engine V} {null : V} (hE : E.IsLawful null)
  {tables : TableName → List (Row V)} {target : Target}

include hE

/-- The rows of a bare table are those of the level that reads it. -/
theorem mem_rows_of_bareTable {level : Level} {name : TableName}
    (h : level.bareTable? = some name) {row : Row V} (hrow : row ∈ tables name)
    (order : List Sql.Expr) : row ∈ E.rows tables (level.toSelect order) := by
  have hreads := Level.readsTable_of_bareTable? h
  have hitems : (level.toSelect order).items = .star := by
    rw [Level.toSelect, Level.selectList, if_pos hreads.star]
  have hgrouped : E.isGrouped (level.toSelect order) = false := by
    rw [Engine.isGrouped, hitems]
    simp [Level.toSelect, hreads.groups, hreads.having, Sql.SelectList.exprs]
  have hfrom : E.joinedRows tables (E.sourceRows tables (level.toSelect order).source)
      (level.toSelect order).joins = (tables name).map (E.labelled none) := by
    change E.joinedRows tables (E.sourceRows tables level.body.source) level.body.joins = _
    rw [hreads.source, hreads.joins, Engine.sourceRows, Engine.joinedRows]
  have hunits : E.units (level.toSelect order) ((tables name).map (E.labelled none)) =
      (tables name).map fun row ↦ [E.labelled none row] := by
    rw [Engine.units, hgrouped]
    change E.unitsOf false level.body.filters _ _ _ = _
    simp [Engine.unitsOf, hreads.filters]
  rw [E.rows_eq, E.answer_eq, hfrom, hunits]
  refine hE.mem_finish (show (level.toSelect order).distinct = false from hreads.distinct)
    (show (level.toSelect order).limit = none from hreads.limit) (E.mem_project.2 ?_)
  obtain ⟨i, hi⟩ := List.mem_iff_getElem?.1 hrow
  refine ⟨i, [E.labelled none row], by simp [hi], ?_⟩
  rw [hgrouped, hitems]
  ext column
  change row column = E.labelled none row none column
  rw [Engine.labelled, if_pos (Or.inl rfl)]

/-- The rows of a side of a join are rows of its statement. -/
theorem side_rows {stage : Stage} {label : String} {side : Sql.Source × List String}
    (hside : (Join.side target stage label).Yields side) {order : List Sql.Expr}
    (horder : stage.Orders target order) :
    ∃ rows : List (Row V), E.sourceRows tables side.1 = rows.map (E.labelled (some label)) ∧
      ∀ row ∈ rows, row ∈ E.rows tables (stage.level.toSelect order) := by
  have hmade : Ensures (fun side ↦ ∃ rows : List (Row V),
      E.sourceRows tables side.1 = rows.map (E.labelled (some label)) ∧
        ∀ row ∈ rows, row ∈ E.rows tables (stage.level.toSelect order))
      (Join.side target stage label) := by
    unfold Join.side
    split
    · rename_i name hbare
      refine .pure ⟨tables name, by rw [Engine.sourceRows], ?_⟩
      exact fun row hrow ↦ mem_rows_of_bareTable hE hbare hrow order
    · refine .bind (.yields _) (fun inner hinner ↦ .pure ?_)
      refine ⟨E.rows tables (stage.level.toSelect inner), by rw [Engine.sourceRows], ?_⟩
      exact horder.mem_rows hE tables hinner
  exact hmade.of_yields hside

end Join

section Joins

variable {V : Type} (E : Engine V) (null : V) (tables : TableName → List (Row V)) (target : Target)
  (type : JoinType) (keys : List (String × String)) (suffixes : String × String)

/-- The value of a left column in a row of a join, by the rows of both sides. A key is taken from
the side that has all rows, or from the one that has it. -/
def Join.HasValue (key : Option (String × String)) (left right : Row V) (name : String)
    (value : V) : Prop :=
  match type, key with
  | .right, some (_, r) => value = right r
  | .full, some (l, r) => left l ≠ null ∧ value = left l ∨ left l = null ∧ value = right r
  | _, _ => value = left name

/-- The groups of a join are those of its left side. Every row of the join is made of one row of
each side, where one side may have none, and has the values of the groups that are kept. -/
def Stage.JoinsGroups (left right next : Stage) : Prop :=
  next.groups = left.groups ∧ ∀ leftOrder rightOrder order, left.Orders target leftOrder →
    right.Orders target rightOrder → ∀ row ∈ E.rows tables (next.level.toSelect order),
      ∃ leftRow rightRow : Row V,
        (leftRow ∈ E.rows tables (left.level.toSelect leftOrder) ∨
          (type = .right ∨ type = .full) ∧ ∀ name, leftRow name = null) ∧
        (rightRow ∈ E.rows tables (right.level.toSelect rightOrder) ∨
          (type = .left ∨ type = .full) ∧ ∀ name, rightRow name = null) ∧
        ∀ group ∈ left.groups,
          Join.keepsColumn type keys suffixes left.level.names right.level.names group = true →
            Join.HasValue null type (keys.find? fun key ↦ key.1 = group) leftRow rightRow group
              (row group)

variable {E null target type keys suffixes}

theorem Join.get?_columns {leftColumns rightColumns : List String} {name : String}
    (hname : name ∈ leftColumns)
    (h : keepsColumn type keys suffixes leftColumns rightColumns name = true) :
    (columns type keys suffixes leftColumns rightColumns).get? name =
      some (leftDefinition type (keys.find? fun key ↦ key.1 = name) name) := by
  simp only [keepsColumn, keepsName, Bool.and_eq_true, Bool.or_eq_true, List.all_eq_true,
    decide_eq_true_eq] at h
  obtain ⟨⟨hown, hleft⟩, hright⟩ := h
  apply Bindings.get?_ofPairs
  · refine List.mem_append_left _ (List.mem_map.2 ⟨name, hname, ?_⟩)
    exact Prod.ext hown rfl
  · intro pair hpair heq
    rcases List.mem_append.1 hpair with hmem | hmem
    · obtain ⟨other, hother, rfl⟩ := List.mem_map.1 hmem
      rcases hleft other hother with rfl | hne
      · rfl
      · exact absurd heq hne
    · obtain ⟨other, hother, rfl⟩ := List.mem_map.1 hmem
      exact absurd heq (hright other hother)

theorem Join.isWindowed_leftDefinition (key : Option (String × String)) (name : String) :
    (leftDefinition type key name).isWindowed = false := by
  unfold leftDefinition
  split <;> rfl

theorem Join.hasValue_leftDefinition (hE : E.IsLawful null) (env : Env V)
    (key : Option (String × String)) (name : String) :
    HasValue null type key (env (some leftLabel)) (env (some rightLabel)) name
      (E.inRow env (leftDefinition type key name)) := by
  cases key with
  | none => cases type <;> rfl
  | some key =>
    cases type with
    | full => exact hE.coalesced _ _
    | inner | left | right | semi | anti => rfl

theorem Join.level_of_not_isTest (htest : type.isTest = false) (d : Dialect)
    (left right : Sql.Source × List String) :
    ∃ kind, level d type keys suffixes left right =
        fullLevel kind left.1 right.1 keys (columns type keys suffixes left.2 right.2) ∧
      (kind = .right ∨ kind = .full → type = .right ∨ type = .full) ∧
      (kind = .left ∨ kind = .full → type = .left ∨ type = .full) := by
  cases type with
  | semi | anti => cases htest
  | inner | left | right | full => exact ⟨_, rfl, by simp, by simp⟩

theorem Join.level_of_isTest (htest : type.isTest = true) (d : Dialect)
    (left right : Sql.Source × List String) :
    ∃ negated, level d type keys suffixes left right =
      semiLevel d negated left.1 right.1 left.2 keys := by
  cases type with
  | semi => exact ⟨false, rfl⟩
  | anti => exact ⟨true, rfl⟩
  | inner | left | right | full => cases htest

/-- Every row of a join is made of one row of each side, or of none. -/
theorem Stage.Joined.joinsGroups (hE : E.IsLawful null) {left right next : Stage}
    (hgroups : ∀ group ∈ left.groups, group ∈ left.level.names) (htest : type.isTest = false)
    (hjoined : Stage.Joined target type keys suffixes left right next) :
    left.JoinsGroups E null tables target type keys suffixes right next := by
  obtain @⟨leftSide, rightSide, -, hleftMade, hrightMade⟩ := hjoined
  refine ⟨rfl, ?_⟩
  intro leftOrder rightOrder order hleftOrder hrightOrder row hrow
  obtain ⟨leftRows, hleftRows, hleft⟩ := Join.side_rows hE hleftMade hleftOrder
  obtain ⟨rightRows, hrightRows, hright⟩ := Join.side_rows hE hrightMade hrightOrder
  have hread := Join.isRead_level hE target.dialect type keys suffixes leftSide rightSide
  obtain ⟨kind, hlevel, hleftKind, hrightKind⟩ :=
    @Join.level_of_not_isTest type keys suffixes htest target.dialect leftSide rightSide
  change row ∈ E.rows tables ((Join.level _ _ _ _ leftSide rightSide).toSelect order) at hrow
  have hordinary : (Join.level target.dialect type keys suffixes leftSide
      rightSide).IsOrdinary := by
    rw [hlevel]
    exact ⟨nofun, fun _ ↦ rfl, fun _ ↦ rfl⟩
  have hgrouped := hread.isGrouped hordinary order
  rw [hlevel] at hgrouped hrow
  obtain ⟨env, henv, hvalues⟩ := Level.exists_env_of_mem_rows hE hgrouped hrow
  -- By the law of joins, the row comes from one row of each side; an outer side may be missing.
  have hmade : E.Joins null kind Join.leftLabel Join.rightLabel leftRows rightRows env := by
    change env ∈ E.joinedRows tables (E.sourceRows tables leftSide.1)
      [⟨kind, rightSide.1, _⟩] at henv
    rw [Engine.joinedRows, Engine.joinedRows, hleftRows, hrightRows] at henv
    exact hE.join kind _ _ _ _ _ env (by decide) henv
  refine ⟨env (some Join.leftLabel), env (some Join.rightLabel), ?_, ?_, ?_⟩
  · rcases hmade.left with ⟨old, hold, hrow⟩ | ⟨houter, hnull⟩
    · rw [funext hrow]
      exact .inl (hleft old hold)
    · exact .inr ⟨hleftKind houter, hnull⟩
  · rcases hmade.right with ⟨old, hold, hrow⟩ | ⟨houter, hnull⟩
    · rw [funext hrow]
      exact .inl (hright old hold)
    · exact .inr ⟨hrightKind houter, hnull⟩
  · intro group hgroup hkept
    rw [← Join.side_names.of_yields hleftMade, ← Join.side_names.of_yields hrightMade] at hkept
    have hname : group ∈ leftSide.2 := by
      rw [Join.side_names.of_yields hleftMade]
      exact hgroups group hgroup
    rw [hvalues group _ (Join.get?_columns hname hkept) (Join.isWindowed_leftDefinition _ group)]
    exact Join.hasValue_leftDefinition hE env _ group

/-- Every row of a semi or an anti join is a row of the left side. -/
theorem Stage.Joined.keepsGroups (hE : E.IsLawful null) {left right next : Stage}
    (hgroups : ∀ group ∈ left.groups, group ∈ left.level.names) (htest : type.isTest = true)
    (hjoined : Stage.Joined target type keys suffixes left right next) :
    left.KeepsGroups E tables target id (fun _ ↦ true) next := by
  obtain @⟨leftSide, rightSide, -, hleftMade, hrightMade⟩ := hjoined
  refine ⟨(List.map_id _).symm, ?_⟩
  intro order order' horder row hrow
  obtain ⟨leftRows, hleftRows, hleft⟩ := Join.side_rows hE hleftMade horder
  have hread := Join.isRead_level hE target.dialect type keys suffixes leftSide rightSide
  obtain ⟨negated, hlevel⟩ :=
    @Join.level_of_isTest type keys suffixes htest target.dialect leftSide rightSide
  change row ∈ E.rows tables ((Join.level _ _ _ _ leftSide rightSide).toSelect order') at hrow
  rw [hlevel] at hread hrow
  have hgrouped := hread.isGrouped ⟨nofun, fun _ ↦ rfl, fun _ ↦ rfl⟩ order'
  obtain ⟨env, henv, hvalues⟩ := Level.exists_env_of_mem_rows hE hgrouped hrow
  change env ∈ E.joinedRows tables (E.sourceRows tables leftSide.1) [] at henv
  rw [Engine.joinedRows, hleftRows] at henv
  obtain ⟨old, hold, rfl⟩ := List.mem_map.1 henv
  refine ⟨old, hleft old hold, ?_⟩
  rintro group _ ⟨hgroup, -, rfl⟩
  have hname : group ∈ leftSide.2 := by
    rw [Join.side_names.of_yields hleftMade]
    exact hgroups group hgroup
  have hdefinition : (Join.semiLevel target.dialect negated leftSide.1 rightSide.1 leftSide.2
      keys).columns.get? group = some (Join.leftColumn group) := by
    apply Bindings.get?_ofPairs
    · exact List.mem_map_of_mem hname
    · rintro _ hpair rfl
      obtain ⟨other, -, rfl⟩ := List.mem_map.1 hpair
      rfl
  calc row group = E.inRow _ (Join.leftColumn group) := hvalues group _ hdefinition rfl
    _ = E.labelled (some Join.leftLabel) old (some Join.leftLabel) group := rfl
    _ = old group := if_pos (.inr rfl)

end Joins

/-! ## Groups of queries -/

/-- Groups stay valid, as far as joins leave their names. Every group of a query is a visible
column. A verb that keeps rows and columns keeps every group, under its new name, as the same column
of the same rows, unless another column takes the name; and so does a join, in which rows of one
side may have no match.

A join gives a suffix to a left column that the right side has, too, if it is no key. The groups do
not follow, and then this says nothing. -/
theorem Query.groups_stay_valid {V : Type} {E : Engine V} {null : V} (hE : E.IsLawful null)
    (tables : TableName → List (Row V)) (target : Target) {query : Query}
    (hnames : query.plan.keepsGroupNames = true) :
    Ensures (fun stage ↦ (∀ group ∈ stage.groups, group ∈ stage.level.names) ∧
      (∀ verb : Verb, verb.reopens = true → (query.plan.andThen verb).IsRowwise E target →
        Ensures (stage.KeepsGroups E tables target verb.renamed
          (verb.keepsGroup query.plan.outline)) (verb.run target stage)) ∧
      ∀ right type keys suffixes, Ensures (fun next ↦
        if type.isTest then stage.KeepsGroups E tables target id (fun _ ↦ true) next
        else stage.JoinsGroups E null tables target type keys suffixes right next)
        (stage.join target right type keys suffixes)) (query.build target) := by
  rw [query.build_eq_plan]
  refine .mono (.and (.and (query.plan.build_follows target) (query.plan.build_isOrdinary target))
    (.and (query.plan.build_isRead hE target) (Plan.build_groups target hnames))) ?_
  rintro stage ⟨⟨hfollows, hordinary⟩, hread, hgroups⟩
  refine ⟨hgroups, ?_, ?_⟩
  · rintro verb hreopens ⟨hrowwise, hverb⟩
    exact Stage.run_keepsGroups tables hE hfollows hgroups hordinary (hread hrowwise) hreopens hverb
  · intro right type keys suffixes
    refine .mono (stage.join_joined right type keys suffixes) ?_
    intro next hjoined
    split
    · rename_i htest
      exact hjoined.keepsGroups tables hE hgroups htest
    · rename_i htest
      exact hjoined.joinsGroups tables hE hgroups (by simpa using htest)

/-- Orders with twice their amounts, by shop. -/
def ordersByShop : Query :=
  ((Query.table "orders" ["shop", "amount"]).mutate
    [("twice", .call "*" [.symbol "amount", .literal (.integer (some 2))] [])]).groupBy ["shop"]

def ordersByShop.target : Target where
  dialect := .ansi
  now := ⟨⟨2000, 1, 1⟩, 0, 0, 0⟩

open ordersByShop in
theorem Query.groups_stay_valid_ordersByShop :
    ordersByShop.plan.keepsGroupNames = true ∧ ∃ stage renamed joined : Stage,
      (ordersByShop.build target).Yields stage ∧
      ((Verb.pick [("store", "shop")] true).run target stage).Yields renamed ∧
      (stage.join target (.ofTable "shops" ["shop", "city"]) .inner [("shop", "shop")]
        Query.defaultSuffixes).Yields joined ∧
      (stage.groups = ["shop"] ∧ renamed.groups = ["store"] ∧ joined.groups = ["shop"]) ∧
      ∀ tables, Sql.nestedLoops.Carries tables (fun name group ↦ name = "store" ∧ group = "shop")
          (stage.level.toSelect []) (renamed.level.toSelect []) ∧
        Sql.nestedLoops.Carries tables (fun name group ↦ name = "shop" ∧ group = "shop")
          (stage.level.toSelect []) (joined.level.toSelect []) := by
  have hnames : ordersByShop.plan.keepsGroupNames = true := by decide +kernel
  have hrowwise : (ordersByShop.plan.andThen (.pick [("store", "shop")] true)).IsRowwise
      Sql.nestedLoops target := by
    refine ⟨⟨⟨trivial, ?_⟩, trivial⟩, trivial⟩
    intro residual lowered warnings hresidual hlowered
    cases hresidual
    cases hlowered
    exact .binary _ (.column _) (.literal _)
  refine ⟨hnames, _, _, _, ⟨{}, _, rfl⟩, ⟨{}, _, rfl⟩, ⟨{}, _, rfl⟩, ⟨rfl, rfl, rfl⟩, ?_⟩
  intro tables
  obtain ⟨-, hverbs, hjoins⟩ :=
    (Query.groups_stay_valid Sql.nestedLoops_isLawful tables target hnames).of_yields ⟨{}, _, rfl⟩
  constructor
  · have hcarries := ((hverbs _ rfl hrowwise).of_yields ⟨{}, _, rfl⟩).2 [] [] (.inl rfl)
    refine hcarries.mono ?_
    rintro name group ⟨rfl, rfl⟩
    exact ⟨List.mem_singleton_self _, by decide +kernel, rfl⟩
  · intro row hrow
    obtain ⟨left, right, hleft, -, hvalues⟩ := ((hjoins (.ofTable "shops" ["shop", "city"]) .inner
      [("shop", "shop")] Query.defaultSuffixes).of_yields ⟨{}, _, rfl⟩).2 [] [] [] (.inl rfl)
      (.inl rfl) row hrow
    refine ⟨left, hleft.resolve_right (by simp), ?_⟩
    rintro name group ⟨rfl, rfl⟩
    exact hvalues "shop" (List.mem_singleton_self _) (by decide +kernel)

end SqlVerbs
