import Mathlib.Data.List.Induction
import SqlVerbs.Proofs.Lowering.Names
import SqlVerbs.Proofs.Query.Extraction
import SqlVerbs.Proofs.Query.Rows
import SqlVerbs.Query.Verb

/-!
# The rows of levels

A level shows the rows that its statement has. As long as it is open, a column or a condition that
is written over its visible columns may be added to the level itself: its definitions take the
places of names, and the level shows what the addition makes of the rows. A level becomes the source
of another one that shows the same rows.
-/

namespace SqlVerbs

open Sql (Semantics TableName finishRows rowsOfSelect?)
open Sql.Semantics (HaveColumns passed)

theorem Sql.Expr.passedColumn?_eq_some {e : Sql.Expr} {source : String} :
    e.passedColumn? = some source ↔ e = .column source := by
  unfold passedColumn? column
  split <;> simp_all

namespace Level

theorem resolve_true (level : Level) (e : Sql.Expr) :
    level.resolve true e = e.inline level.columns.get? := by
  have hdefinitions : level.definition? true = level.columns.get? := by
    funext name
    cases h : level.columns.get? name <;> simp [definition?, h]
  rw [resolve, hdefinitions]

theorem names_setColumn (level : Level) (name : String) (e : Sql.Expr) :
    (level.setColumn name e).names =
      if name ∈ level.names then level.names else level.names ++ [name] :=
  Bindings.names_insert level.columns name e

theorem mem_of_unknown? {level : Level} {names : List String}
    (hknown : Stage.unknown? level names = none) : ∀ name ∈ names, name ∈ level.names := by
  intro name hname
  have hhas : level.has name = true := by simpa using List.find?_eq_none.1 hknown name hname
  exact Bindings.get?_isSome.1 hhas

theorem columns_ofSource {columns : List String} (h : columns.Nodup) (source : Sql.Source) :
    (ofSource source columns).columns = passed columns :=
  Bindings.ofPairs_of_nodup (by simpa [Function.comp_def] using h)

theorem columns_keepOnly {names more : List String} (h : (names ++ more).Nodup)
    (source : Sql.Source) (condition : Sql.Expr) :
    (((ofSource source (names ++ more)).addFilter condition).keepOnly names).columns =
      passed names := by
  change List.filter _ (ofSource source _).columns = _
  have hnames : names.filter (fun name ↦ names.contains name) = names := by simp
  have hmore : more.filter (fun name ↦ names.contains name) = [] := by
    rw [List.filter_eq_nil_iff]
    intro name hname hold
    exact (List.nodup_append.1 h).2.2 name (by simpa using hold) name hname rfl
  rw [columns_ofSource h, passed, List.filter_map, List.filter_append]
  simp only [Function.comp_def, hnames, hmore, List.append_nil, passed]

theorem mem_pickedColumns {level : Level} {columns : List (String × String)}
    {keepRest : Bool} {groups : List String} {entry : String × Sql.Expr}
    (h : entry ∈ if keepRest then Stage.renamedColumns columns level
      else Stage.pickedColumns columns groups level) :
    ∃ old ∈ level.columns, old.2 = entry.2 := by
  split at h
  · obtain ⟨old, hold, rfl⟩ := List.mem_map.1 (Bindings.mem_of_mem_ofPairs h)
    exact ⟨old, hold, rfl⟩
  · rcases List.mem_append.1 (Bindings.mem_of_mem_ofPairs h) with hgroup | hlisted
    · obtain ⟨group, -, hget⟩ := List.mem_filterMap.1 hgroup
      obtain ⟨definition, hdefinition, rfl⟩ := Option.map_eq_some_iff.1 hget
      exact ⟨_, Bindings.mem_of_get? hdefinition, rfl⟩
    · obtain ⟨column, -, hget⟩ := List.mem_filterMap.1 hlisted
      obtain ⟨definition, hdefinition, rfl⟩ := Option.map_eq_some_iff.1 hget
      exact ⟨_, Bindings.mem_of_get? hdefinition, rfl⟩

/-- Windows become columns, and nothing else changes. -/
theorem setWindows_eq (level : Level) (windows : Windows) :
    level.setWindows windows = { level with columns := (level.setWindows windows).columns } := by
  induction windows generalizing level with
  | nil => rfl
  | cons window later ih => exact ih (level.setColumn window.1 (level.resolve true window.2))

theorem body_setWindows (level : Level) (windows : Windows) :
    (level.setWindows windows).body = level.body := by
  rw [setWindows_eq]

/-! ## The output columns of a level -/

theorem passesOn_iff {entry : String × Sql.Expr} {source : String} :
    passesOn entry source = true ↔ entry = (source, .column source) := by
  obtain ⟨name, e⟩ := entry
  simp [passesOn, Sql.Expr.passedColumn?_eq_some]

theorem columns_of_isStar {level : Level} (h : level.isStar = true) :
    level.columns = passed level.sourceColumns := by
  obtain ⟨body, sourceColumns, columns, summarised, closed⟩ := level
  simp only [isStar, Bool.and_eq_true, decide_eq_true_eq] at h ⊢
  obtain ⟨hlength, hall⟩ := h
  induction columns generalizing sourceColumns with
  | nil =>
    obtain rfl : sourceColumns = [] := List.eq_nil_of_length_eq_zero hlength.symm
    rfl
  | cons entry columns ih =>
    cases sourceColumns with
    | nil => cases hlength
    | cons source sourceColumns =>
      simp only [List.zipWith_cons_cons, List.all_cons, id_eq, Bool.and_eq_true] at hall
      rw [passesOn_iff.1 hall.1, ih sourceColumns (by simpa using hlength) hall.2]
      rfl

/-- The level reads the table and does nothing else. -/
structure ReadsTable (level : Level) (name : TableName) : Prop where
  source : level.body.source = .table name none
  joins : level.body.joins = []
  filters : level.body.filters = []
  groups : level.body.groups = []
  having : level.body.having = []
  distinct : level.body.distinct = false
  limit : level.body.limit = none
  star : level.isStar = true

theorem readsTable_of_bareTable? {level : Level} {name : TableName}
    (h : level.bareTable? = some name) : level.ReadsTable name := by
  rw [bareTable?] at h
  split at h
  · rename_i hsource
    split at h
    · rename_i huntouched
      cases h
      simp only [isUntouched, Bool.and_eq_true, List.isEmpty_iff, Bool.not_eq_true',
        Option.isNone_iff_eq_none] at huntouched
      obtain ⟨⟨⟨⟨⟨⟨hjoins, hfilters⟩, hgroups⟩, hhaving⟩, hdistinct⟩, hlimit⟩, hstar⟩ := huntouched
      exact ⟨hsource, hjoins, hfilters, hgroups, hhaving, hdistinct, hlimit, hstar⟩
    · cases h
  · cases h

end Level

theorem Sql.outputName?_named (e : Sql.Expr) (label : String) :
    (SelectItem.named e label).outputName? = some label ∧ (SelectItem.named e label).expr = e := by
  unfold SelectItem.named
  split
  · split
    · rename_i hname
      exact ⟨congrArg some hname, rfl⟩
    · exact ⟨rfl, rfl⟩
  · exact ⟨rfl, rfl⟩

theorem Sql.namedItems?_named (columns : Bindings Sql.Expr) :
    namedItems? (columns.map (fun entry ↦ .named entry.2 entry.1)) = some columns := by
  induction columns with
  | nil => rfl
  | cons entry rest ih =>
    rw [namedItems?] at ih ⊢
    rw [List.map_cons, List.mapM_cons, ih]
    simp [(outputName?_named entry.2 entry.1).1, (outputName?_named entry.2 entry.1).2]

/-! ## What a level shows -/

section Shows

variable {V A : Type} [DecidableEq V] (S : Semantics V A) (tables : TableName → List (Bindings V))

/-- The level takes the rows of its source, filters them, computes its columns and does nothing
else, unless it is closed by a last clause. These are its rows. -/
structure Level.Shows (level : Level) (rows : List (Bindings V)) : Prop where
  joins : level.body.joins = []
  groups : level.body.groups = []
  having : level.body.having = []
  summarised : level.summarised = false
  unfinished : level.closed = false → level.body.distinct = false ∧ level.body.limit = none
  nodup_source : level.sourceColumns.Nodup
  nodup : level.names.Nodup
  rows : ∃ source, level.body.source.rows? S tables = some source ∧
    HaveColumns source level.sourceColumns ∧
      rows = finishRows level.body.distinct level.body.limit
        (S.project level.columns (S.keepWhere level.body.filters source))

end Shows

namespace Level.Shows

variable {V A : Type} [DecidableEq V] {S : Semantics V A} {tables : TableName → List (Bindings V)}
  {level : Level} {rows : List (Bindings V)}

theorem haveColumns (h : level.Shows S tables rows) : HaveColumns rows level.names := by
  obtain ⟨source, -, -, rfl⟩ := h.rows
  exact fun row hrow ↦ S.haveColumns_project _ _ row (Sql.mem_of_mem_finishRows hrow)

/-- The statement of a level has the rows that the level shows. -/
theorem toSelect (h : level.Shows S tables rows) :
    rowsOfSelect? S tables (level.toSelect []) = some rows := by
  obtain ⟨source, hsource, hcolumns, rfl⟩ := h.rows
  have houtput : level.selectList.rows? S (S.keepWhere level.body.filters source) =
      some (S.project level.columns (S.keepWhere level.body.filters source)) := by
    have hkept : HaveColumns (S.keepWhere level.body.filters source) level.sourceColumns :=
      fun row hrow ↦ hcolumns row (Sql.mem_of_mem_keepAt hrow)
    rw [selectList]
    split
    · rename_i hstar
      rw [columns_of_isStar hstar, S.project_passed h.nodup_source hkept]
      rfl
    · rw [Sql.SelectList.rows?, Sql.namedItems?_named, Option.map_some]
  rw [Level.toSelect, rowsOfSelect?, h.joins, h.groups, h.having]
  simp [hsource, houtput]

/-- A fresh level over a source shows its rows. -/
theorem ofSource {source : Sql.Source} {names : List String} (hnodup : names.Nodup)
    (hsource : source.rows? S tables = some rows) (hrows : HaveColumns rows names) :
    (Level.ofSource source names).Shows S tables rows where
  joins := rfl
  groups := rfl
  having := rfl
  summarised := rfl
  unfinished _ := ⟨rfl, rfl⟩
  nodup_source := hnodup
  nodup := by
    rw [Level.names, columns_ofSource hnodup, Sql.Semantics.names_passed]
    exact hnodup
  rows := by
    refine ⟨rows, hsource, hrows, ?_⟩
    rw [columns_ofSource hnodup]
    change rows = S.project (passed names) (S.keepWhere [] rows)
    rw [S.keepWhere_nil, S.project_passed hnodup hrows]

/-! ## Additions to an open level -/

section Open

variable (h : level.Shows S tables rows) (hopen : level.closed = false)

include h hopen

theorem rows_of_open : ∃ source, level.body.source.rows? S tables = some source ∧
    HaveColumns source level.sourceColumns ∧
      rows = S.project level.columns (S.keepWhere level.body.filters source) := by
  obtain ⟨source, hsource, hcolumns, hrows⟩ := h.rows
  obtain ⟨hdistinct, hlimit⟩ := h.unfinished hopen
  rw [hdistinct, hlimit] at hrows
  exact ⟨source, hsource, hcolumns, hrows⟩

/-- Other columns over the same rows of the source. -/
theorem withColumns {columns : Bindings Sql.Expr} {rows' : List (Bindings V)}
    (hnodup : columns.names.Nodup)
    (hrows : ∀ source, rows = S.project level.columns source → rows' = S.project columns source) :
    { level with columns := columns }.Shows S tables rows' where
  joins := h.joins
  groups := h.groups
  having := h.having
  summarised := h.summarised
  unfinished := h.unfinished
  nodup_source := h.nodup_source
  nodup := hnodup
  rows := by
    obtain ⟨source, hsource, hcolumns, heq⟩ := h.rows_of_open hopen
    obtain ⟨hdistinct, hlimit⟩ := h.unfinished hopen
    refine ⟨source, hsource, hcolumns, ?_⟩
    rw [hdistinct, hlimit]
    exact hrows _ heq

theorem setColumn {e : Sql.Expr} (he : e.Within level.names) (name : String) :
    (level.setColumn name (level.resolve true e)).Shows S tables (S.withColumn name e rows) := by
  refine h.withColumns hopen (Bindings.nodup_insert h.nodup _ _) (fun source hrows ↦ ?_)
  rw [level.resolve_true, S.project_insert (fun _ ↦ he.mem) he.isCalledWindow, hrows]

theorem addFilter {e : Sql.Expr} (he : e.Within level.names) (hwindows : level.hasWindows = false)
    (hcondition : e.isWindowed = false) :
    (level.addFilter (level.resolve true e)).Shows S tables (S.keepWhere [e] rows) where
  joins := h.joins
  groups := h.groups
  having := h.having
  summarised := h.summarised
  unfinished := h.unfinished
  nodup_source := h.nodup_source
  nodup := h.nodup
  rows := by
    obtain ⟨source, hsource, hcolumns, rfl⟩ := h.rows_of_open hopen
    obtain ⟨hdistinct, hlimit⟩ := h.unfinished hopen
    refine ⟨source, hsource, hcolumns, ?_⟩
    rw [level.resolve_true, ← S.project_keepWhere hwindows hcondition (fun _ ↦ he.mem)]
    change _ = finishRows level.body.distinct level.body.limit _
    rw [hdistinct, hlimit]
    rfl

/-- A last clause closes the level. -/
theorem close (distinct : Bool) (limit : Option UInt64) :
    { level with
      body := { level.body with distinct := distinct, limit := limit }
      closed := true }.Shows S tables (finishRows distinct limit rows) where
  joins := h.joins
  groups := h.groups
  having := h.having
  summarised := h.summarised
  unfinished := nofun
  nodup_source := h.nodup_source
  nodup := h.nodup
  rows := by
    obtain ⟨source, hsource, hcolumns, rfl⟩ := h.rows_of_open hopen
    exact ⟨source, hsource, hcolumns, rfl⟩

end Open

/-! ## Windows as columns -/

theorem setWindows (h : level.Shows S tables rows) (hopen : level.closed = false)
    {windows : Windows} (hnodup : (level.names ++ windows.map Prod.fst).Nodup)
    (hwindows : ∀ w ∈ windows, w.2.Within level.names) :
    (level.setWindows windows).Shows S tables (S.extend windows rows) ∧
      (level.setWindows windows).names = level.names ++ windows.map Prod.fst ∧
        (level.setWindows windows).closed = false := by
  induction windows using List.reverseRecOn with
  | nil => simpa [Level.setWindows, Sql.Semantics.extend_nil] using ⟨h, hopen⟩
  | append_singleton windows w ih =>
    rw [List.map_append, ← List.append_assoc] at hnodup
    rw [List.forall_mem_append] at hwindows
    obtain ⟨hshows, hnames, hclosed⟩ := ih (List.nodup_append.1 hnodup).1 hwindows.1
    have hnew : w.1 ∉ level.names ++ windows.map Prod.fst :=
      fun hold ↦ (List.nodup_append.1 hnodup).2.2 _ hold w.1 (by simp) rfl
    have hw : w.2.Within level.names := hwindows.2 w (by simp)
    have hw' : w.2.Within (level.setWindows windows).names :=
      hw.mono (by simpa [hnames] using fun name hname ↦ .inl hname)
    have hset := hshows.setColumn hclosed hw' w.1
    rw [Sql.Semantics.withColumn_extend h.haveColumns hnew (fun _ ↦ hw.mem)] at hset
    have hfold : level.setWindows (windows ++ [w]) = (level.setWindows windows).setColumn w.1
        ((level.setWindows windows).resolve true w.2) := by
      simp [Level.setWindows, List.foldl_append]
    rw [hfold]
    refine ⟨hset, ?_, hclosed⟩
    rw [names_setColumn, hnames, if_neg hnew, List.map_append, List.append_assoc]
    rfl

/-- Conditions on windows that are columns of the source, and are dropped. -/
theorem keepOnly_addFilter {windows : Windows} {condition rest : Sql.Expr} {names : List String}
    {source : Sql.Source} (htakes : Takes names [] windows [condition] [rest])
    (hnodup : names.Nodup) (hrows : HaveColumns rows names) (hcondition : condition.Within names)
    (hsource : source.rows? S tables = some (S.extend windows rows))
    (hcolumns : HaveColumns (S.extend windows rows) (names ++ windows.map Prod.fst)) :
    (((Level.ofSource source (names ++ windows.map Prod.fst)).addFilter rest).keepOnly
      names).Shows S tables (S.keepWhere [condition] rows) := by
  have hall : (names ++ windows.map Prod.fst).Nodup := htakes.nodup (by simpa using hnodup)
  have hkept := columns_keepOnly hall source rest
  exact {
    joins := rfl
    groups := rfl
    having := rfl
    summarised := rfl
    unfinished _ := ⟨rfl, rfl⟩
    nodup_source := hall
    nodup := by
      rw [Level.names, hkept, Sql.Semantics.names_passed]
      exact hnodup
    rows := by
      refine ⟨_, hsource, hcolumns, ?_⟩
      rw [hkept, ← Sql.Semantics.keepWhere_extend hrows htakes hnodup (fun _ ↦ hcondition.mem)]
      rfl }

end Level.Shows

end SqlVerbs
