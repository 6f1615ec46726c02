import Mathlib.Data.List.Basic
import SqlVerbs.Proofs.Sql.Columns

/-!
# Definitions in place of columns

Definitions take the places of columns by a simultaneous substitution: what is put in is not
searched again, so one substitution after another is a single one. The leaves of the result are
those of the tree, with the leaves of a definition where a column has one. Its columns and its
windows follow from that.
-/

namespace SqlVerbs.Sql.Expr

theorem mapChildren_ne_column {f : Expr → Expr} {e : Expr}
    (h : ∀ name, e ≠ .identifier none name) (name : String) :
    e.mapChildren f ≠ .identifier none name := by
  cases e with
  | identifier qualifier other => exact h name
  | _ => nofun

/-! ## One substitution after another -/

/-- A column that has no definition here may have one there, and one that has is replaced by it with
definitions from there in place of columns. -/
def thenInline (first second : String → Option Expr) (name : String) : Option Expr :=
  match first name with
  | some definition => some (definition.inline second)
  | none => second name

theorem inline_none (e : Expr) : e.inline (fun _ ↦ none) = e := by
  induction e using induction_columns with
  | column name => rfl
  | node e hcolumn ih => rw [inline_of_ne_column hcolumn, mapChildren_eq_self ih]

theorem inline_inline (first second : String → Option Expr) (e : Expr) :
    (e.inline first).inline second = e.inline (thenInline first second) := by
  induction e using induction_columns with
  | column name =>
    rw [inline, inline, thenInline]
    cases first name <;> rfl
  | node e hcolumn ih =>
    rw [inline_of_ne_column hcolumn, inline_of_ne_column (mapChildren_ne_column hcolumn),
      mapChildren_mapChildren, inline_of_ne_column hcolumn]
    exact mapChildren_congr ih

/-! ## Leaves -/

/-- The leaves of the tree in visiting order: columns, constants, stars and raw texts. -/
def leaves (e : Expr) : List Expr := e.parts.filter isLeaf

theorem leaves_of_isLeaf {e : Expr} (h : e.isLeaf = true) : e.leaves = [e] := by
  rw [leaves, parts_eq, children_of_isLeaf h, List.flatMap_nil, List.filter_cons_of_pos h,
    List.filter_nil]

theorem leaves_of_not_isLeaf {e : Expr} (h : e.isLeaf = false) :
    e.leaves = e.children.flatMap leaves := by
  rw [leaves, parts_eq, List.filter_cons_of_neg (by rw [h]; exact Bool.false_ne_true),
    List.filter_flatMap]
  rfl

theorem isLeaf_mapChildren (f : Expr → Expr) (e : Expr) :
    (e.mapChildren f).isLeaf = e.isLeaf := by
  cases e <;> rfl

/-- What stands in the place of a leaf: the leaves of a definition, or the leaf itself. -/
def inlinedLeaf (defs : String → Option Expr) : Expr → List Expr
  | .identifier none name =>
    match defs name with
    | some definition => definition.leaves
    | none => [.identifier none name]
  | leaf => [leaf]

theorem inlinedLeaf_of_ne_column {defs : String → Option Expr} {e : Expr}
    (h : ∀ name, e ≠ .identifier none name) : inlinedLeaf defs e = [e] := by
  unfold inlinedLeaf
  split
  · rename_i name
    exact absurd rfl (h name)
  · rfl

theorem leaves_inline (defs : String → Option Expr) (e : Expr) :
    (e.inline defs).leaves = e.leaves.flatMap (inlinedLeaf defs) := by
  induction e using induction_columns with
  | column name =>
    have hleaves : (identifier none name).leaves = [.identifier none name] := leaves_of_isLeaf rfl
    rw [hleaves, List.flatMap_singleton, inline, inlinedLeaf]
    cases defs name with
    | none => exact hleaves
    | some definition => rfl
  | node e hcolumn ih =>
    rw [inline_of_ne_column hcolumn]
    cases hleaf : e.isLeaf with
    | true =>
      have hkept : e.mapChildren (inline defs) = e :=
        mapChildren_eq_self (by simp [children_of_isLeaf hleaf])
      rw [hkept, leaves_of_isLeaf hleaf, List.flatMap_singleton, inlinedLeaf_of_ne_column hcolumn]
    | false =>
      rw [leaves_of_not_isLeaf (by rw [isLeaf_mapChildren, hleaf]), children_mapChildren,
        leaves_of_not_isLeaf hleaf, List.flatMap_map, List.flatMap_assoc]
      exact List.flatMap_congr ih

/-! ## Columns and windows -/

/-- What is mentioned in the place of a column: the columns of its definition, or the column
itself. -/
def inlinedName (defs : String → Option Expr) (name : String) : List String :=
  match defs name with
  | some definition => definition.columnReferences
  | none => [name]

theorem columnReferences_inline (defs : String → Option Expr) (e : Expr) :
    (e.inline defs).columnReferences = e.columnReferences.flatMap (inlinedName defs) := by
  induction e using induction_columns with
  | column name =>
    rw [inline, columnReferences, List.flatMap_singleton, inlinedName]
    cases defs name <;> rfl
  | node e hcolumn ih =>
    rw [inline_of_ne_column hcolumn, columnReferences_eq_flatMap (mapChildren_ne_column hcolumn),
      children_mapChildren, columnReferences_eq_flatMap hcolumn, List.flatMap_map,
      List.flatMap_assoc]
    exact List.flatMap_congr ih

theorem isWindowed_eq_children (e : Expr) :
    e.isWindowed = (e.isWindow || e.children.any isWindowed) := by
  rw [isWindowed_eq_any, parts_eq, List.any_cons, List.any_flatMap, funext isWindowed_eq_any]

theorem isWindowed_inline_iff {defs : String → Option Expr} {e : Expr} :
    (e.inline defs).isWindowed = true ↔ e.isWindowed = true ∨
      ∃ name ∈ e.columnReferences, ∃ definition, defs name = some definition ∧
        definition.isWindowed = true := by
  induction e using induction_columns with
  | column name =>
    rw [inline]
    cases hdefinition : defs name <;> simp [columnReferences, isWindowed, hdefinition]
  | node e hcolumn ih =>
    have hroot : (e.inline defs).isWindow = e.isWindow :=
      isWindow_inline fun name hname ↦ absurd hname (hcolumn name)
    rw [isWindowed_eq_children, hroot, children_inline hcolumn, isWindowed_eq_children e,
      columnReferences_eq_flatMap hcolumn]
    simp only [Bool.or_eq_true, List.any_map, List.any_eq_true, Function.comp_apply,
      List.mem_flatMap]
    grind

/-! ## The substitution -/

/-- Definitions take the places of columns by a proper simultaneous substitution.

* Without definitions the tree stays as it is. A column with a definition becomes just that, and a
  column with a qualifier stays.
* Two substitutions one after the other are one.
* The leaves of the result are the leaves of the tree, with the leaves of definitions, as they were
  given, in place of columns.
* The columns that the result mentions are those of the tree, each with the columns of its
  definition in its place, in visiting order.
* The result has a window if and only if the tree has one, or the definition of a column that the
  tree mentions. -/
theorem inline_simultaneous :
    (∀ e : Expr, e.inline (fun _ ↦ none) = e) ∧
    (∀ (defs : String → Option Expr) (name : String),
      (column name).inline defs = (defs name).getD (.column name)) ∧
    (∀ (defs : String → Option Expr) (qualifier name : String),
      (identifier (some qualifier) name).inline defs = .identifier (some qualifier) name) ∧
    (∀ (first second : String → Option Expr) (e : Expr),
      (e.inline first).inline second = e.inline (thenInline first second)) ∧
    (∀ (defs : String → Option Expr) (e : Expr),
      (e.inline defs).leaves = e.leaves.flatMap (inlinedLeaf defs)) ∧
    (∀ (defs : String → Option Expr) (e : Expr),
      (e.inline defs).columnReferences = e.columnReferences.flatMap (inlinedName defs)) ∧
    ∀ (defs : String → Option Expr) (e : Expr),
      (e.inline defs).isWindowed = true ↔ e.isWindowed = true ∨
        ∃ name ∈ e.columnReferences, ∃ definition, defs name = some definition ∧
          definition.isWindowed = true :=
  ⟨inline_none, fun _ _ ↦ rfl, fun _ _ _ ↦ rfl, inline_inline, leaves_inline, columnReferences_inline,
    fun _ _ ↦ isWindowed_inline_iff⟩

end SqlVerbs.Sql.Expr
