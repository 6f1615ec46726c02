import SqlVerbs.Proofs.Query.Statements
import SqlVerbs.Proofs.Sql.Columns

/-!
# The columns that statements see

A statement sees the columns of what it reads from, and it sees them by the label of their side
where there is one. Its order may use its output columns too. A statement is scoped if every column
that it mentions is one of these.
-/

namespace SqlVerbs.Sql

/-- The names of the output columns, over the columns of the `FROM` clause. -/
def SelectList.outputs (columns : List String) : SelectList → List String
  | .star => columns
  | .columns items => items.filterMap SelectItem.outputName?

section Columns

variable (tables : TableName → List String)

mutual

/-- The columns of a source of rows. -/
def Source.columns : Source → List String
  | .table name _ => tables name
  | .subquery select _ => outputsOf select

/-- The output columns of a statement. -/
def outputsOf : SelectFrom Source → List String
  | ⟨_, items, source, joins, _, _, _, _, _⟩ =>
    items.outputs (source.columns ++ columnsOfJoins joins)

/-- The columns of joined sources. -/
def columnsOfJoins : List (JoinWith Source) → List String
  | [] => []
  | ⟨_, source, _⟩ :: rest => source.columns ++ columnsOfJoins rest

end

/-- The label of a source, with its columns. -/
def Source.labelled? (source : Source) : Option (String × List String) :=
  match source with
  | .table _ label => label.map (fun label ↦ (label, source.columns tables))
  | .subquery _ label => some (label, source.columns tables)

/-- The columns that the `FROM` clause of a statement offers. -/
def SelectFrom.fromColumns (select : Select) : List String :=
  select.source.columns tables ++ columnsOfJoins tables select.joins

/-- The labelled sources of the `FROM` clause, with their columns. -/
def SelectFrom.sides (select : Select) : List (String × List String) :=
  (select.source :: select.joins.map JoinWith.source).filterMap (Source.labelled? tables)

theorem outputsOf_eq (select : Select) :
    outputsOf tables select = select.items.outputs (select.fromColumns tables) := by
  rw [outputsOf, SelectFrom.fromColumns]

end Columns

/-! ## Scoped expressions and statements -/

/-- If the node is a column, is it one of these, or one of a labelled side? -/
def Expr.isVisible (columns : List String) (sides : List (String × List String)) : Expr → Bool
  | .identifier none name => columns.contains name
  | .identifier (some label) name => sides.any (fun side ↦ side.1 = label && side.2.contains name)
  | _ => true

/-- Are all columns of the tree visible? -/
def Expr.isScoped (columns : List String) (sides : List (String × List String)) (e : Expr) : Bool :=
  e.parts.all (Expr.isVisible columns sides)

/-- The conditions of a statement, with its groups. -/
def SelectFrom.conditions (select : Select) : List Expr :=
  select.filters ++ select.groups ++ select.having ++ select.joins.flatMap JoinWith.on

/-- Does the statement mention only columns that it sees? Around it there may be more sides. -/
def SelectFrom.isScoped (tables : TableName → List String)
    (around : List (String × List String)) (select : Select) : Bool :=
  (select.items.exprs ++ select.conditions).all
      (Expr.isScoped (select.fromColumns tables) (select.sides tables ++ around)) &&
    select.order.all (Expr.isScoped (select.fromColumns tables ++ outputsOf tables select)
      (select.sides tables ++ around))

namespace Expr

variable {columns columns' : List String} {sides sides' : List (String × List String)} {e : Expr}

theorem isScoped_eq (e : Expr) : e.isScoped columns sides =
    (e.isVisible columns sides && e.children.all (isScoped columns sides)) := by
  rw [isScoped, parts_eq, List.all_cons, List.all_flatMap]
  rfl

theorem isScoped_labelled {label name : String} {names : List String}
    (hside : (label, names) ∈ sides) (hname : name ∈ names) :
    (identifier (some label) name).isScoped columns sides = true := by
  rw [isScoped_eq, Bool.and_eq_true]
  refine ⟨List.any_eq_true.2 ⟨_, hside, ?_⟩, rfl⟩
  simpa using hname

theorem isScoped_iff : e.isScoped columns sides = true ↔
    (∀ name, .identifier none name ∈ e.parts → name ∈ columns) ∧
      ∀ label name, .identifier (some label) name ∈ e.parts →
        ∃ side ∈ sides, side.1 = label ∧ name ∈ side.2 := by
  rw [isScoped, List.all_eq_true]
  constructor
  · intro h
    refine ⟨fun name hname ↦ by simpa [isVisible] using h _ hname, fun label name hname ↦ ?_⟩
    simpa [isVisible] using h _ hname
  · rintro ⟨hplain, hlabelled⟩ s hs
    cases s with
    | identifier label name =>
      cases label with
      | none => simpa [isVisible] using hplain name hs
      | some label => simpa [isVisible] using hlabelled label name hs
    | _ => rfl

theorem isScoped_mono (h : e.isScoped columns sides = true)
    (hcolumns : ∀ name ∈ columns, name ∈ columns') (hsides : ∀ side ∈ sides, side ∈ sides') :
    e.isScoped columns' sides' = true := by
  rw [isScoped_iff] at h ⊢
  refine ⟨fun name hname ↦ hcolumns name (h.1 name hname), fun label name hname ↦ ?_⟩
  obtain ⟨side, hside, hlabel⟩ := h.2 label name hname
  exact ⟨side, hsides side hside, hlabel⟩

theorem Over.isScoped {names : List String} {windows : Bool} (h : e.Over names windows)
    (hnames : ∀ name ∈ names, name ∈ columns) : e.isScoped columns sides = true := by
  rw [isScoped_iff]
  refine ⟨fun name hname ↦ hnames name (h _ hname).2, fun label name hname ↦ ?_⟩
  exact absurd (h _ hname).1 (by simp)

/-- Scoped definitions in place of some columns, where the others are visible. -/
theorem isScoped_inline {names : List String} {windows : Bool} {defs : String → Option Expr}
    (he : e.Over names windows)
    (hdefs : ∀ name definition, defs name = some definition →
      definition.isScoped columns sides = true)
    (hothers : ∀ name ∈ names, defs name = none → name ∈ columns) :
    (e.inline defs).isScoped columns sides = true := by
  rw [isScoped_iff]
  constructor
  · intro name hname
    obtain ⟨column, definition, -, hdef, hpart⟩ | ⟨t, ht, heq, hnone⟩ := mem_parts_inline hname
    · exact (isScoped_iff.1 (hdefs column definition hdef)).1 name hpart
    · cases t with
      | identifier label column =>
        obtain ⟨rfl, hcolumn⟩ := he _ ht
        have hkept := hnone column rfl
        rw [inline, hkept] at heq
        cases heq
        exact hothers name hcolumn hkept
      | _ => cases heq
  · intro label name hname
    obtain ⟨column, definition, -, hdef, hpart⟩ | ⟨t, ht, heq, hnone⟩ := mem_parts_inline hname
    · exact (isScoped_iff.1 (hdefs column definition hdef)).2 label name hpart
    · cases t with
      | identifier qualifier column =>
        obtain ⟨rfl, -⟩ := he _ ht
        rw [inline, hnone column rfl] at heq
        cases heq
      | _ => cases heq

end Expr

end SqlVerbs.Sql
