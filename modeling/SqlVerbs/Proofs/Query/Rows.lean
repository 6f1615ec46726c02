import SqlVerbs.Proofs.Bindings
import SqlVerbs.Proofs.Query.Semantics
import SqlVerbs.Sql.Select

/-!
# The rows of statements

A row has named values. A statement takes the rows of its source, keeps those for which its
conditions hold, computes its output columns over the rows that are left, drops repeated rows and
cuts off the rest. Only statements made of these clauses have rows here.
-/

namespace SqlVerbs

namespace Sql

/-! ## Rows by their places -/

/-- The elements at the places for which a test holds. -/
def keepAt {α : Type} (test : Nat → Bool) (items : List α) : List α :=
  (items.zipIdx.filter (fun item ↦ test item.2)).map Prod.fst

section KeepAt

variable {α β : Type} {test test' : Nat → Bool} {items : List α}

theorem keepAt_congr (h : ∀ i < items.length, test i = test' i) :
    keepAt test items = keepAt test' items := by
  refine congrArg (List.map Prod.fst) (List.filter_congr (fun item hitem ↦ ?_))
  exact h item.2 (by simpa using List.snd_lt_of_mem_zipIdx hitem)

theorem mem_of_mem_keepAt {a : α} (h : a ∈ keepAt test items) : a ∈ items := by
  obtain ⟨item, hitem, rfl⟩ := List.mem_map.1 h
  exact List.fst_mem_of_mem_zipIdx (List.mem_of_mem_filter hitem)

theorem keepAt_eq_filter {keeps : α → Bool} (h : ∀ i a, items[i]? = some a → test i = keeps a) :
    keepAt test items = items.filter keeps := by
  have htest : items.zipIdx.filter (fun item ↦ test item.2) =
      items.zipIdx.filter (keeps ∘ Prod.fst) :=
    List.filter_congr (fun item hitem ↦ h _ _ (List.mem_zipIdx_iff_getElem?.1 hitem))
  rw [keepAt, htest, ← List.filter_map, List.zipIdx_map_fst]

theorem keepAt_and {keeps : α → Bool} (h : ∀ i a, items[i]? = some a → test' i = keeps a) :
    keepAt (fun i ↦ test i && test' i) items = (keepAt test items).filter keeps := by
  have htest : items.zipIdx.filter (fun item ↦ test item.2 && test' item.2) =
      items.zipIdx.filter (fun item ↦ test item.2 && keeps item.1) :=
    List.filter_congr (fun item hitem ↦ by rw [h _ _ (List.mem_zipIdx_iff_getElem?.1 hitem)])
  rw [keepAt, htest, keepAt, List.filter_map, List.filter_filter]
  simp only [Function.comp_apply, Bool.and_comm]

theorem map_keepAt_mapIdx {f : Nat → α → β} {g : β → α}
    (h : ∀ i a, items[i]? = some a → g (f i a) = a) :
    (keepAt test (items.mapIdx f)).map g = keepAt test items := by
  have hidx : (items.mapIdx f).zipIdx =
      items.zipIdx.map (fun item ↦ (f item.2 item.1, item.2)) := by
    refine List.ext_getElem? (fun i ↦ ?_)
    cases h : items[i]? <;> simp [List.getElem?_zipIdx, h]
  rw [keepAt, keepAt, hidx, List.filter_map, List.map_map, List.map_map]
  refine List.map_congr_left (fun item hitem ↦ ?_)
  exact h _ _ (List.mem_zipIdx_iff_getElem?.1 (List.mem_of_mem_filter hitem))

end KeepAt

namespace Semantics

variable {V A : Type} (S : Semantics V A)

/-- The columns of some rows. -/
def columnsOf (rows : List (Bindings V)) : Columns V :=
  fun name i ↦ (rows[i]?.bind (·.get? name)).getD (S.missing none name)

/-- The value of an expression over some rows, for the row at a place. -/
def across (rows : List (Bindings V)) (e : Expr) : Nat → V :=
  (S.eval rows.length (S.columnsOf rows) e).value

/-- The value of an expression in a row that stands alone. -/
def inRow (row : Bindings V) (e : Expr) : V := S.across [row] e 0

/-- The rows with an output column for each definition. -/
def project (columns : Bindings Expr) (rows : List (Bindings V)) : List (Bindings V) :=
  rows.mapIdx (fun i _ ↦ columns.mapValues (fun e ↦ S.across rows e i))

/-- The rows for which all conditions hold. -/
def keepWhere (conditions : List Expr) (rows : List (Bindings V)) : List (Bindings V) :=
  keepAt (fun i ↦ conditions.all (fun e ↦ S.holds (S.across rows e i))) rows

/-- The rows with one more column, or another value for it. -/
def withColumn (name : String) (e : Expr) (rows : List (Bindings V)) : List (Bindings V) :=
  rows.mapIdx (fun i row ↦ row.insert name (S.across rows e i))

/-! ## Values over projected rows -/

theorem columnsOf_project {columns : Bindings Expr} {rows : List (Bindings V)} {name : String}
    {e : Expr} (h : columns.get? name = some e) {i : Nat} (hi : i < rows.length) :
    S.columnsOf (S.project columns rows) name i = S.across rows e i := by
  simp [columnsOf, project, hi, h]

/-- Over the output columns an expression has the value that it has with their definitions. -/
theorem across_project {columns : Bindings Expr} {rows : List (Bindings V)} {e : Expr}
    (hnames : ∀ name, .identifier none name ∈ e.parts → name ∈ columns.names)
    (hwindows : ∀ s ∈ e.parts, s.isCalledWindow = true) {i : Nat} (hi : i < rows.length) :
    S.across (S.project columns rows) e i = S.across rows (e.inline columns.get?) i := by
  have hlength : (S.project columns rows).length = rows.length := by simp [project]
  have hinline := (S.eval_inline (n := rows.length) (S.columnsOf rows) columns.get? hwindows).1
  rw [across, across, hinline, hlength]
  refine (S.eval_congr (fun name hname j hj ↦ ?_)).value i hi
  obtain ⟨definition, hdefinition⟩ :=
    Option.isSome_iff_exists.1 (Bindings.get?_isSome.2 (hnames name hname))
  rw [columnsOf_project S hdefinition hj]
  simp [defined, hdefinition, across]

theorem across_eq_inRow {rows : List (Bindings V)} {e : Expr} (h : e.isWindowed = false) {i : Nat}
    {row : Bindings V} (hrow : rows[i]? = some row) : S.across rows e i = S.inRow row e :=
  S.value_eval_local (fun name ↦ by simp [columnsOf, hrow]) (Expr.isWindow_of_mem_parts h)

/-- Output columns without windows are computed row by row. -/
theorem project_eq_map {columns : Bindings Expr} (h : columns.values.any Expr.isWindowed = false)
    (rows : List (Bindings V)) :
    S.project columns rows = rows.map (fun row ↦ columns.mapValues (S.inRow row)) := by
  refine List.ext_getElem? (fun i ↦ ?_)
  rw [project, List.getElem?_mapIdx, List.getElem?_map]
  cases hrow : rows[i]? with
  | none => rfl
  | some row =>
    refine congrArg some (List.map_congr_left (fun entry hentry ↦ ?_))
    have hwindowed : entry.2.isWindowed = false := by
      simp only [Bindings.values, List.any_map, List.any_eq_false] at h
      exact Bool.eq_false_iff.2 (h entry hentry)
    exact congrArg (Prod.mk entry.1) (S.across_eq_inRow hwindowed hrow)

/-- Writing a column over the definitions of the others is writing it over their values. -/
theorem project_insert {columns : Bindings Expr} {e : Expr}
    (hnames : ∀ name, .identifier none name ∈ e.parts → name ∈ columns.names)
    (hwindows : ∀ s ∈ e.parts, s.isCalledWindow = true) (name : String)
    (rows : List (Bindings V)) :
    S.project (columns.insert name (e.inline columns.get?)) rows =
      S.withColumn name e (S.project columns rows) := by
  refine List.ext_getElem? (fun i ↦ ?_)
  rw [withColumn, project, List.getElem?_mapIdx, List.getElem?_mapIdx, project,
    List.getElem?_mapIdx, Option.map_map]
  cases hrow : rows[i]? with
  | none => rfl
  | some row =>
    have hi : i < rows.length := (List.getElem?_eq_some_iff.1 hrow).1
    have hvalue := S.across_project hnames hwindows hi
    rw [project] at hvalue
    simp [hvalue]

/-- Picking among output columns is picking among their definitions. -/
theorem project_pick (columns : Bindings Expr) (names : List (String × String))
    (rows : List (Bindings V)) :
    S.project (columns.pick names) rows = (S.project columns rows).map (·.pick names) := by
  refine List.ext_getElem? (fun i ↦ ?_)
  cases hrow : rows[i]? <;> simp [project, Bindings.mapValues_pick, hrow]

/-! ## Conditions -/

@[simp] theorem keepWhere_nil (rows : List (Bindings V)) : S.keepWhere [] rows = rows := by
  simp [keepWhere, keepAt]

/-- A condition that is on each row alone may be asked for later. -/
theorem keepWhere_append {rows : List (Bindings V)} {condition : Expr} {value : Bindings V → V}
    (h : ∀ i row, rows[i]? = some row → S.across rows condition i = value row)
    (conditions : List Expr) :
    S.keepWhere (conditions ++ [condition]) rows =
      (S.keepWhere conditions rows).filter (fun row ↦ S.holds (value row)) := by
  have htest : ∀ i row, rows[i]? = some row →
      S.holds (S.across rows condition i) = S.holds (value row) :=
    fun i row hrow ↦ congrArg S.holds (h i row hrow)
  rw [keepWhere, keepWhere, ← keepAt_and htest]
  simp

theorem keepWhere_eq_filter {condition : Expr} (h : condition.isWindowed = false)
    (rows : List (Bindings V)) :
    S.keepWhere [condition] rows = rows.filter (fun row ↦ S.holds (S.inRow row condition)) :=
  keepAt_eq_filter (fun _ _ hrow ↦ by simp [S.across_eq_inRow h hrow])

/-- Without windows, a condition on output columns may be asked of the source rows. -/
theorem project_keepWhere {columns : Bindings Expr} {condition : Expr}
    (hcolumns : columns.values.any Expr.isWindowed = false)
    (hcondition : condition.isWindowed = false)
    (hnames : ∀ name, .identifier none name ∈ condition.parts → name ∈ columns.names)
    (conditions : List Expr) (rows : List (Bindings V)) :
    S.project columns (S.keepWhere (conditions ++ [condition.inline columns.get?]) rows) =
      S.keepWhere [condition] (S.project columns (S.keepWhere conditions rows)) := by
  have hwindows : ∀ s ∈ condition.parts, s.isCalledWindow = true := fun s hs ↦ by
    have hwindow := Expr.isWindow_of_mem_parts hcondition s hs
    cases s <;> first | rfl | cases hwindow
  have hvalue : ∀ i row, rows[i]? = some row →
      S.across rows (condition.inline columns.get?) i =
        S.inRow (columns.mapValues (S.inRow row)) condition := by
    intro i row hrow
    have hi : i < rows.length := (List.getElem?_eq_some_iff.1 hrow).1
    rw [← S.across_project hnames hwindows hi, S.project_eq_map hcolumns]
    exact S.across_eq_inRow hcondition (by simp [hrow])
  rw [S.keepWhere_append hvalue, S.project_eq_map hcolumns, S.project_eq_map hcolumns,
    S.keepWhere_eq_filter hcondition, List.filter_map]
  rfl

/-! ## Columns as they are -/

/-- All rows have these columns. -/
def HaveColumns (rows : List (Bindings V)) (names : List String) : Prop :=
  ∀ row ∈ rows, row.names = names

theorem haveColumns_project (columns : Bindings Expr) (rows : List (Bindings V)) :
    HaveColumns (S.project columns rows) columns.names := by
  intro row hrow
  simp only [project, List.mem_mapIdx] at hrow
  obtain ⟨i, hi, rfl⟩ := hrow
  simp

/-- Columns that are passed on under their own names. -/
def passed (names : List String) : Bindings Expr := names.map (fun name ↦ (name, .column name))

@[simp] theorem names_passed (names : List String) : (passed names).names = names := by
  simp [passed, Bindings.names, Function.comp_def]

theorem isWindowed_passed (names : List String) :
    (passed names).values.any Expr.isWindowed = false := by
  simp [passed, Bindings.values, Expr.column, Expr.isWindowed]

/-- The first columns of a row, passed on. -/
theorem mapValues_passed {row : Bindings V} (hnodup : row.names.Nodup) (more : Bindings V) :
    (passed row.names).mapValues (S.inRow (row ++ more)) = row := by
  rw [passed, Bindings.mapValues, List.map_map, Bindings.names, List.map_map]
  refine (List.map_congr_left (fun entry hentry ↦ ?_)).trans (List.map_id row)
  have hvalue : S.inRow (row ++ more) (.column entry.1) = entry.2 := by
    change ((Bindings.get? (row ++ more) entry.1).getD _) = _
    simp [Bindings.get?_append, Bindings.get?_of_mem hnodup hentry]
  exact congrArg (Prod.mk entry.1) hvalue

theorem project_passed {rows : List (Bindings V)} {names : List String} (hnodup : names.Nodup)
    (h : HaveColumns rows names) : S.project (passed names) rows = rows := by
  rw [S.project_eq_map (isWindowed_passed names)]
  refine (List.map_congr_left (fun row hrow ↦ ?_)).trans (List.map_id rows)
  have hrow := h row hrow
  subst hrow
  simpa using S.mapValues_passed hnodup []

end Semantics

/-! ## Statements -/

section Statements

variable {V A : Type} [DecidableEq V] (S : Semantics V A)

/-- Drops repeated rows and cuts off the rest. -/
def finishRows (distinct : Bool) (limit : Option UInt64) (rows : List (Bindings V)) :
    List (Bindings V) :=
  let rows := if distinct then rows.eraseDups else rows
  match limit with
  | some n => rows.take n.toNat
  | none => rows

theorem mem_of_mem_finishRows {distinct : Bool} {limit : Option UInt64} {row : Bindings V}
    {rows : List (Bindings V)} (h : row ∈ finishRows distinct limit rows) : row ∈ rows := by
  have hcut : row ∈ if distinct then rows.eraseDups else rows := by
    cases limit with
    | none => exact h
    | some n => exact List.mem_of_mem_take h
  split at hcut
  · exact List.mem_eraseDups.1 hcut
  · exact hcut

/-- The output columns with their names, if all of them have one. -/
def namedItems? (items : List SelectItem) : Option (Bindings Expr) :=
  items.mapM (fun item ↦ item.outputName?.map (fun name ↦ (name, item.expr)))

/-- The rows with the output columns of a statement. -/
def SelectList.rows? (rows : List (Bindings V)) : SelectList → Option (List (Bindings V))
  | .star => some rows
  | .columns items => (namedItems? items).map (fun columns ↦ S.project columns rows)

mutual

/-- The rows of a source. -/
def Source.rows? (tables : TableName → List (Bindings V)) : Source → Option (List (Bindings V))
  | .table name _ => some (tables name)
  | .subquery select _ => rowsOfSelect? tables select

/-- The rows of a statement, unless it has joins, groups or an order. -/
def rowsOfSelect? (tables : TableName → List (Bindings V)) :
    SelectFrom Source → Option (List (Bindings V))
  | ⟨distinct, items, source, joins, filters, groups, having, order, limit⟩ =>
    if joins.isEmpty && groups.isEmpty && having.isEmpty && order.isEmpty then do
      let rows ← source.rows? tables
      let output ← items.rows? S (S.keepWhere filters rows)
      return finishRows distinct limit output
    else none

end

end Statements

end Sql

end SqlVerbs
