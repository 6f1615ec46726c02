import SqlVerbs.Proofs.Query.Outlines
import SqlVerbs.Proofs.Sql.Scopes

/-!
# Scoped levels

A level is scoped if its definitions and conditions mention only columns that its source has, and
everything below it is scoped. Definitions take the places of visible columns, so an expression over
these is scoped at the level. The statement of a scoped level is scoped, and it has all visible
columns, so a level over it is scoped again.
-/

namespace SqlVerbs

open Compile (Ensures Yields)
open Sql (TableName)

/-- The definitions and conditions of the level mention columns of its source, and the statements
that it reads from are scoped. -/
structure Level.IsScoped (tables : TableName → List String) (level : Level) : Prop where
  source : ∀ name ∈ level.sourceColumns, name ∈ level.body.fromColumns tables
  definitions : ∀ entry ∈ level.columns,
    entry.2.isScoped (level.body.fromColumns tables) (level.body.sides tables) = true
  conditions : ∀ e ∈ level.body.conditions,
    e.isScoped (level.body.fromColumns tables) (level.body.sides tables) = true
  sources : ∀ s ∈ level.body.sources, s.isScoped tables [] = true

/-- The terms are expressions over the visible columns, where computed columns keep their names. -/
def Level.OrderedBy (level : Level) (order : List Sql.Expr) : Prop :=
  ∀ e ∈ order, ∃ lowered : Sql.Expr, lowered.Over level.names true ∧
    e = level.resolve false lowered

namespace Level.IsScoped

variable {tables : TableName → List String} {level : Level}

/-! ## Expressions over the visible columns -/

section Resolve

variable (h : level.IsScoped tables) {e : Sql.Expr} {windows : Bool}
  (he : e.Over level.names windows)

include h he

theorem resolve : (level.resolve true e).isScoped (level.body.fromColumns tables)
    (level.body.sides tables) = true := by
  rw [level.resolve_true]
  apply Sql.Expr.isScoped_inline he
  · intro name definition hdefinition
    exact h.definitions _ (Bindings.mem_of_get? hdefinition)
  · intro name hname hnone
    exact absurd hname (Bindings.get?_eq_none.1 hnone)

/-- Computed columns keep their names, so they have to be output columns. -/
theorem resolve_names {outputs : List String} (houtputs : ∀ name ∈ level.names, name ∈ outputs) :
    (level.resolve false e).isScoped (level.body.fromColumns tables ++ outputs)
      (level.body.sides tables) = true := by
  apply Sql.Expr.isScoped_inline he
  · intro name definition hdefinition
    obtain ⟨hget, -⟩ := Option.filter_eq_some_iff.1 hdefinition
    exact Sql.Expr.isScoped_mono (h.definitions _ (Bindings.mem_of_get? hget))
      (fun _ hname ↦ List.mem_append_left _ hname) (fun _ hside ↦ hside)
  · intro name hname _
    exact List.mem_append_right _ (houtputs name hname)

end Resolve

/-! ## Statements -/

theorem mem_outputs (h : level.IsScoped tables) (order : List Sql.Expr) :
    ∀ name ∈ level.names, name ∈ Sql.outputsOf tables (level.toSelect order) := by
  intro name hname
  rw [Sql.outputsOf_eq]
  change name ∈ level.selectList.outputs (level.body.fromColumns tables)
  rw [Level.selectList]
  split
  · rename_i hstar
    rw [Level.names, columns_of_isStar hstar, Sql.Semantics.names_passed] at hname
    exact h.source name hname
  · obtain ⟨entry, hentry, rfl⟩ := List.mem_map.1 hname
    refine List.mem_filterMap.2 ⟨_, List.mem_map_of_mem hentry, ?_⟩
    exact (Sql.outputName?_named entry.2 entry.1).1

/-- Every statement of a scoped level is scoped, if its order is over the visible columns. -/
theorem toSelect (h : level.IsScoped tables) {order : List Sql.Expr}
    (hordered : level.OrderedBy order) :
    ∀ s ∈ Sql.statementsOf (level.toSelect order), s.isScoped tables [] = true := by
  have hitems : ∀ e ∈ level.selectList.exprs,
      e.isScoped (level.body.fromColumns tables) (level.body.sides tables) = true := by
    rw [Level.selectList]
    split
    · exact List.forall_mem_nil _
    · rw [Sql.SelectList.exprs, List.map_map, List.forall_mem_map]
      intro entry hentry
      rw [Function.comp_apply, (Sql.outputName?_named entry.2 entry.1).2]
      exact h.definitions entry hentry
  have horder : ∀ e ∈ order, e.isScoped
      (level.body.fromColumns tables ++ Sql.outputsOf tables (level.toSelect order))
        (level.body.sides tables) = true := by
    intro e he
    obtain ⟨lowered, hlowered, rfl⟩ := hordered e he
    exact h.resolve_names hlowered (h.mem_outputs order)
  rw [Sql.statementsOf_eq, List.forall_mem_cons]
  refine ⟨?_, h.sources⟩
  rw [Sql.SelectFrom.isScoped, Bool.and_eq_true, List.all_eq_true, List.all_eq_true,
    List.append_nil, List.forall_mem_append]
  exact ⟨⟨hitems, h.conditions⟩, horder⟩

/-- A level that only reads a table has the columns of the table. -/
theorem mem_bareTable (h : level.IsScoped tables) {name : TableName}
    (hbare : level.bareTable? = some name) : ∀ column ∈ level.names, column ∈ tables name := by
  have hreads := readsTable_of_bareTable? hbare
  intro column hcolumn
  rw [Level.names, columns_of_isStar hreads.star, Sql.Semantics.names_passed] at hcolumn
  simpa [Sql.SelectFrom.fromColumns, hreads.source, hreads.joins, Sql.Source.columns,
    Sql.columnsOfJoins] using h.source column hcolumn

theorem ofSource {source : Sql.Source} {names : List String}
    (hnames : ∀ name ∈ names, name ∈ source.columns tables)
    (hstatements : ∀ s ∈ source.statements, s.isScoped tables [] = true) :
    (Level.ofSource source names).IsScoped tables where
  source := by
    intro name hname
    exact List.mem_append_left _ (hnames name hname)
  definitions := by
    intro entry hentry
    obtain ⟨name, hname, rfl⟩ := mem_columns_ofSource hentry
    have hover : (Sql.Expr.column name).Over names false := by
      simpa [Sql.Expr.column] using hname
    exact hover.isScoped (fun name hname ↦ List.mem_append_left _ (hnames name hname))
  conditions := nofun
  sources := by
    simpa [Sql.SelectFrom.sources, Level.ofSource, Sql.statementsOfJoins] using hstatements

/-! ## Additions to a level -/

/-- Other columns over the same source. -/
theorem withColumns (h : level.IsScoped tables) {columns : Bindings Sql.Expr}
    (hcolumns : ∀ entry ∈ columns,
      entry.2.isScoped (level.body.fromColumns tables) (level.body.sides tables) = true) :
    { level with columns }.IsScoped tables :=
  ⟨h.source, hcolumns, h.conditions, h.sources⟩

theorem setColumn (h : level.IsScoped tables) {e : Sql.Expr} {windows : Bool}
    (he : e.Over level.names windows) (name : String) :
    (level.setColumn name (level.resolve true e)).IsScoped tables := by
  refine h.withColumns ?_
  intro entry hentry
  rcases Bindings.mem_of_mem_insert hentry with hold | rfl
  · exact h.definitions entry hold
  · exact h.resolve he

theorem setWindows (h : level.IsScoped tables) {windows : Windows}
    (hwindows : ∀ w ∈ windows, w.2.Over level.names true) :
    (level.setWindows windows).IsScoped tables := by
  induction windows generalizing level with
  | nil => exact h
  | cons window later ih =>
    rw [List.forall_mem_cons] at hwindows
    refine ih (h.setColumn hwindows.1 window.1) ?_
    intro w hw
    refine (hwindows.2 w hw).mono (fun name hname ↦ ?_) id
    rw [Level.names_setColumn]
    split
    · exact hname
    · exact List.mem_append_left _ hname

/-- Other conditions and groups over the same source. -/
theorem withConditions (h : level.IsScoped tables) {filters groups having : List Sql.Expr}
    (hconditions : ∀ e ∈ filters ++ groups ++ having,
      e.isScoped (level.body.fromColumns tables) (level.body.sides tables) = true) :
    { level with body := { level.body with filters, groups, having } }.IsScoped tables := by
  refine ⟨h.source, h.definitions, ?_, h.sources⟩
  intro e he
  rcases List.mem_append.1 he with hnew | hon
  · exact hconditions e hnew
  · exact h.conditions e (List.mem_append_right _ hon)

theorem of_mem_conditions (h : level.IsScoped tables) :
    ∀ e ∈ level.body.filters ++ level.body.groups ++ level.body.having,
      e.isScoped (level.body.fromColumns tables) (level.body.sides tables) = true :=
  fun e he ↦ h.conditions e (List.mem_append_left _ he)

section Conditions

variable (h : level.IsScoped tables) {e : Sql.Expr}
  (he : e.isScoped (level.body.fromColumns tables) (level.body.sides tables) = true)

include h he

theorem addFilter : (level.addFilter e).IsScoped tables := by
  have hold := h.of_mem_conditions
  simp only [List.forall_mem_append] at hold
  refine h.withConditions ?_
  simpa only [List.forall_mem_append, List.forall_mem_singleton] using
    ⟨⟨⟨hold.1.1, he⟩, hold.1.2⟩, hold.2⟩

theorem addHaving : (level.addHaving e).IsScoped tables := by
  have hold := h.of_mem_conditions
  refine h.withConditions ?_
  rw [← List.append_assoc, List.forall_mem_append, List.forall_mem_singleton]
  exact ⟨hold, he⟩

end Conditions

/-- A last clause changes nothing that is mentioned. -/
theorem close (h : level.IsScoped tables) (distinct : Bool) (limit : Option UInt64) :
    { level with
      body := { level.body with distinct, limit }
      closed := true }.IsScoped tables :=
  ⟨h.source, h.definitions, h.conditions, h.sources⟩

/-! ## Conditions on windows -/

/-- What is left of a condition is over the visible columns and the names of its windows. -/
theorem over_rest {visible : List String} {condition rest : Sql.Expr} {windows : Windows}
    (htakes : Takes visible [] windows [condition] [rest])
    (hcondition : condition.Over visible true) :
    rest.Over (visible ++ windows.map Prod.fst) false := by
  intro s hs
  cases s with
  | identifier label name =>
    rcases htakes.columns rest (List.mem_singleton_self _) label name hs with
      ⟨b, hb, hpart⟩ | ⟨rfl, hwindow⟩
    · rw [List.mem_singleton.1 hb] at hpart
      obtain ⟨rfl, hname⟩ := hcondition _ hpart
      exact ⟨rfl, List.mem_append_left _ hname⟩
    · exact ⟨rfl, List.mem_append_right _ hwindow⟩
  | window fn partition order frame =>
    have hplain := htakes.windowless rest (List.mem_singleton_self _)
    exact absurd (Sql.Expr.isWindow_of_mem_parts hplain _ hs) (by simp [Sql.Expr.isWindow])
  | _ => trivial

/-- The windows of a condition are columns of the source, and what is left mentions those. -/
theorem filterWindows (h : level.IsScoped tables) {condition rest : Sql.Expr} {windows : Windows}
    {label : String} (htakes : Takes level.names [] windows [condition] [rest])
    (hnodup : level.names.Nodup) (hcondition : condition.Over level.names true) :
    (((Level.ofSource (.subquery ((level.setWindows windows).toSelect []) label)
      (level.setWindows windows).names).addFilter rest).keepOnly level.names).IsScoped tables := by
  have hwindows : ∀ w ∈ windows, w.2.Over level.names true := by
    intro w hw
    obtain hw | ⟨-, e, he, hpart⟩ := htakes.windows w hw
    · cases hw
    · rw [List.mem_singleton.1 he] at hpart
      exact hcondition.part hpart
  have hset := h.setWindows hwindows
  have hfresh : (Level.ofSource (.subquery ((level.setWindows windows).toSelect []) label)
      (level.setWindows windows).names).IsScoped tables :=
    .ofSource (hset.mem_outputs []) (hset.toSelect (List.forall_mem_nil _))
  have hall : (level.names ++ windows.map Prod.fst).Nodup := htakes.nodup (by simpa using hnodup)
  have hrest : rest.Over (level.setWindows windows).names false := by
    rw [Level.names_setWindows hall]
    exact over_rest htakes hcondition
  have hfiltered := hfresh.addFilter (hrest.isScoped hfresh.source)
  exact hfiltered.withColumns fun entry hentry ↦
    hfiltered.definitions entry (List.mem_of_mem_filter hentry)

end Level.IsScoped

/-! ## Joins -/

namespace Join

/-- A side of a join has its label and all its columns, and the statements in it are scoped. -/
structure IsScopedSide (tables : TableName → List String) (label : String)
    (side : Sql.Source × List String) : Prop where
  labelled : side.1.labelled? tables = some (label, side.1.columns tables)
  columns : ∀ name ∈ side.2, name ∈ side.1.columns tables
  statements : ∀ s ∈ side.1.statements, s.isScoped tables [] = true

theorem keys_known {left right : Level} {keys : List (String × String)}
    (h : unknownKey? left right keys = none) :
    ∀ key ∈ keys, key.1 ∈ left.names ∧ key.2 ∈ right.names := by
  induction keys with
  | nil => exact List.forall_mem_nil _
  | cons key later ih =>
    rw [unknownKey?] at h
    split at h
    · cases h
    · rename_i hleft
      split at h
      · cases h
      · rename_i hright
        rw [Bool.not_eq_true, Bool.not_eq_false'] at hleft hright
        rw [List.forall_mem_cons]
        exact ⟨⟨Bindings.get?_isSome.1 hleft, Bindings.get?_isSome.1 hright⟩, ih h⟩

section Sides

variable {tables : TableName → List String} {left right : Sql.Source × List String}
  (hleft : IsScopedSide tables leftLabel left) (hright : IsScopedSide tables rightLabel right)
  {keys : List (String × String)} (hkeys : ∀ key ∈ keys, key.1 ∈ left.2 ∧ key.2 ∈ right.2)

section Expressions

variable {names : List String} {sides : List (String × List String)}
  (hleftSide : (leftLabel, left.1.columns tables) ∈ sides)
  (hrightSide : (rightLabel, right.1.columns tables) ∈ sides)

include hleft hleftSide in
theorem isScoped_leftColumn {name : String} (h : name ∈ left.2) :
    (leftColumn name).isScoped names sides = true :=
  Sql.Expr.isScoped_labelled hleftSide (hleft.columns name h)

include hright hrightSide in
theorem isScoped_rightColumn {name : String} (h : name ∈ right.2) :
    (rightColumn name).isScoped names sides = true :=
  Sql.Expr.isScoped_labelled hrightSide (hright.columns name h)

include hleft hright hkeys hleftSide hrightSide

theorem isScoped_condition : ∀ e ∈ condition keys, e.isScoped names sides = true := by
  rw [condition, List.forall_mem_map]
  intro key hkey
  have hl := @isScoped_leftColumn _ _ hleft names _ hleftSide _ (hkeys key hkey).1
  have hr := @isScoped_rightColumn _ _ hright names _ hrightSide _ (hkeys key hkey).2
  rw [Sql.Expr.isScoped_eq]
  simp [Sql.Expr.isVisible, Sql.Expr.children, hl, hr]

/-- A key may be taken from either side, or from both. -/
theorem isScoped_leftDefinition (type : JoinType) {key : Option (String × String)}
    (hkey : ∀ pair ∈ key, pair ∈ keys) {name : String} (hname : name ∈ left.2) :
    (leftDefinition type key name).isScoped names sides = true := by
  unfold leftDefinition
  split
  · exact isScoped_rightColumn hright hrightSide (hkeys _ (hkey _ rfl)).2
  · have hl := @isScoped_leftColumn _ _ hleft names _ hleftSide _ (hkeys _ (hkey _ rfl)).1
    have hr := @isScoped_rightColumn _ _ hright names _ hrightSide _ (hkeys _ (hkey _ rfl)).2
    rw [Sql.Expr.call, Sql.Expr.isScoped_eq]
    simp [Sql.Expr.isVisible, Sql.Expr.children, hl, hr]
  · exact isScoped_leftColumn hleft hleftSide hname

theorem isScoped_columns (type : JoinType) (suffixes : String × String) :
    ∀ entry ∈ Join.columns type keys suffixes left.2 right.2,
      entry.2.isScoped names sides = true := by
  intro entry hentry
  rcases List.mem_append.1 (Bindings.mem_of_mem_ofPairs hentry) with hmem | hmem
  · obtain ⟨name, hname, rfl⟩ := List.mem_map.1 hmem
    apply isScoped_leftDefinition hleft hright hkeys hleftSide hrightSide type _ hname
    exact fun pair hpair ↦ List.mem_of_find?_eq_some hpair
  · obtain ⟨name, hname, rfl⟩ := List.mem_map.1 hmem
    exact isScoped_rightColumn hright hrightSide (List.mem_of_mem_filter hname)

end Expressions

include hleft hright hkeys

theorem isScoped_level (d : Dialect) (type : JoinType) (suffixes : String × String) :
    (Join.level d type keys suffixes left right).IsScoped tables := by
  have htest (negated : Bool) :
      (semiLevel d negated left.1 right.1 left.2 keys).IsScoped tables := by
    have hside : (leftLabel, left.1.columns tables) ∈
        (semiLevel d negated left.1 right.1 left.2 keys).body.sides tables := by
      simp [semiLevel, Sql.SelectFrom.sides, hleft.labelled]
    refine ⟨nofun, ?_, ?_, ?_⟩
    · intro entry hentry
      obtain ⟨name, hname, rfl⟩ := List.mem_map.1 (Bindings.mem_of_mem_ofPairs hentry)
      exact isScoped_leftColumn hleft hside hname
    · intro e he
      obtain rfl : e = existence d negated right.1 keys := by
        simpa [semiLevel, Sql.SelectFrom.conditions] using he
      rfl
    · simpa [Sql.SelectFrom.sources, semiLevel, Sql.statementsOfJoins] using hleft.statements
  have hboth (kind : Sql.JoinKind) : (fullLevel kind left.1 right.1 keys
      (Join.columns type keys suffixes left.2 right.2)).IsScoped tables := by
    have hsides : (fullLevel kind left.1 right.1 keys
        (Join.columns type keys suffixes left.2 right.2)).body.sides tables =
          [(leftLabel, left.1.columns tables), (rightLabel, right.1.columns tables)] := by
      simp [fullLevel, Sql.SelectFrom.sides, hleft.labelled, hright.labelled]
    refine ⟨nofun, ?_, ?_, ?_⟩
    · rw [hsides]
      exact isScoped_columns hleft hright hkeys (by simp) (by simp) type suffixes
    · rw [hsides]
      simpa [fullLevel, Sql.SelectFrom.conditions] using
        isScoped_condition hleft hright hkeys (by simp) (by simp)
    · simpa [Sql.SelectFrom.sources, fullLevel, Sql.statementsOfJoins, or_imp, forall_and] using
        ⟨hleft.statements, hright.statements⟩
  cases type with
  | semi => exact htest false
  | anti => exact htest true
  | inner | left | right | full => exact hboth _

/-- The statement in the condition of a semi or an anti join sees the left side around it. -/
theorem isScoped_matching :
    (Sql.matching right.1 keys).isScoped tables [(leftLabel, left.1.columns tables)] = true := by
  have hsides : (Sql.matching right.1 keys).sides tables =
      [(rightLabel, right.1.columns tables)] := by
    simp [Sql.matching, Sql.SelectFrom.sides, hright.labelled]
  rw [Sql.SelectFrom.isScoped, hsides, Bool.and_eq_true, List.all_eq_true]
  refine ⟨?_, rfl⟩
  have hcondition := @isScoped_condition tables left right hleft hright keys hkeys
    ((Sql.matching right.1 keys).fromColumns tables)
    ([(rightLabel, right.1.columns tables)] ++ [(leftLabel, left.1.columns tables)])
    (by simp) (by simp)
  intro e he
  rcases List.mem_append.1 he with hitem | hwhere
  · obtain rfl : e = .literal (.integer (some 1)) := by
      simpa [Sql.matching, Sql.SelectList.exprs] using hitem
    rfl
  · exact hcondition e (by simpa [Sql.matching, Sql.SelectFrom.conditions] using hwhere)

end Sides

end Join

end SqlVerbs
