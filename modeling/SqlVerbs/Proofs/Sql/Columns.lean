import SqlVerbs.Proofs.Query.Semantics

/-!
# The columns of expressions

Which columns a tree mentions, whether it has windows, and what becomes of both when definitions
take the places of columns.
-/

namespace SqlVerbs

namespace Sql.Expr

/-- If the node is a column, is it one of these? If it is a window, is it one of a call? -/
def Fits (names : List String) : Expr → Prop
  | .identifier none name => name ∈ names
  | .window fn _ _ _ => fn.isAggregateCall = true
  | _ => True

/-- The columns of the tree are among these, and its windows are those of calls. -/
def Within (names : List String) (e : Expr) : Prop := ∀ s ∈ e.parts, s.Fits names

theorem Within.mem {names : List String} {e : Expr} (h : e.Within names) {name : String}
    (hname : .identifier none name ∈ e.parts) : name ∈ names := h _ hname

theorem Within.isCalledWindow {names : List String} {e : Expr} (h : e.Within names) :
    ∀ s ∈ e.parts, s.isCalledWindow = true := by
  intro s hs
  have hfits := h s hs
  cases s <;> first | rfl | exact hfits

theorem mem_parts_of_part {e s t : Expr} (hs : s ∈ e.parts) (ht : t ∈ s.parts) : t ∈ e.parts := by
  induction e using induction_children with
  | node e ih =>
    rw [parts_eq, List.mem_cons, List.mem_flatMap] at hs
    rcases hs with rfl | ⟨c, hc, hs⟩
    · exact ht
    · exact mem_parts_of_child hc (ih c hc hs)

theorem Within.part {names : List String} {e s : Expr} (h : e.Within names) (hs : s ∈ e.parts) :
    s.Within names := fun t ht ↦ h t (mem_parts_of_part hs ht)

theorem Within.mono {names names' : List String} {e : Expr} (h : e.Within names)
    (hsubset : ∀ name ∈ names, name ∈ names') : e.Within names' := by
  intro s hs
  have hfits := h s hs
  unfold Fits at hfits ⊢
  split
  · exact hsubset _ hfits
  · exact hfits
  · trivial

/-! ## Trees whose columns and windows pass a test -/

/-- What is asked of the columns in a tree, and of the windows. -/
structure NodeTest where
  column : Option String → String → Prop
  window : Expr → Prop

/-- Does the node pass, if it is a column or a window? -/
def NodeTest.Holds (t : NodeTest) : Expr → Prop
  | .identifier qualifier name => t.column qualifier name
  | .window fn partition order frame => t.window (.window fn partition order frame)
  | _ => True

attribute [grind =] NodeTest.Holds

/-- The test that asks for nothing. -/
def NodeTest.any : NodeTest := ⟨fun _ _ ↦ True, fun _ ↦ True⟩

/-- Every column and every window in the tree passes. -/
def Passes (t : NodeTest) (e : Expr) : Prop := ∀ s ∈ e.parts, t.Holds s

theorem passes_iff {t : NodeTest} {e : Expr} :
    e.Passes t ↔ t.Holds e ∧ ∀ c ∈ e.children, c.Passes t := by
  simp only [Passes, parts_eq e, List.mem_cons, List.mem_flatMap, forall_eq_or_imp]
  grind

theorem passes_any (e : Expr) : e.Passes .any := by
  intro s _
  cases s <;> trivial

theorem Passes.part {t : NodeTest} {e s : Expr} (h : e.Passes t) (hs : s ∈ e.parts) :
    s.Passes t := fun inner hinner ↦ h inner (mem_parts_of_part hs hinner)

theorem Passes.mono {t t' : NodeTest} {e : Expr} (h : e.Passes t)
    (hcolumn : ∀ qualifier name, t.column qualifier name → t'.column qualifier name)
    (hwindow : ∀ w ∈ e.parts, w.isWindow = true → t.window w → t'.window w) : e.Passes t' := by
  intro s hs
  have hholds := h s hs
  cases s with
  | identifier qualifier name => exact hcolumn _ _ hholds
  | window fn partition order frame => exact hwindow _ hs rfl hholds
  | _ => trivial

/-- A tree without windows passes where all columns do. -/
theorem passes_of_isWindowed {t : NodeTest} {e : Expr} (h : e.isWindowed = false)
    (hcolumn : ∀ qualifier name, t.column qualifier name) : e.Passes t := by
  intro s hs
  have hwindow := isWindow_of_mem_parts h s hs
  cases s with
  | identifier qualifier name => exact hcolumn qualifier name
  | window fn partition order frame => cases hwindow
  | _ => trivial

section Constructors

variable {t : NodeTest}

@[simp] theorem passes_literal (value : Literal) : (literal value).Passes t :=
  passes_iff.2 (by simp [NodeTest.Holds, children])

@[simp] theorem passes_star : star.Passes t := passes_iff.2 (by simp [NodeTest.Holds, children])

@[simp] theorem passes_raw (text : String) : (raw text).Passes t :=
  passes_iff.2 (by simp [NodeTest.Holds, children])

@[simp] theorem passes_identifier (qualifier : Option String) (name : String) :
    (identifier qualifier name).Passes t ↔ t.column qualifier name :=
  .trans passes_iff (by simp [NodeTest.Holds, children])

@[simp] theorem passes_list (items : List Expr) :
    (list items).Passes t ↔ ∀ e ∈ items, e.Passes t :=
  .trans passes_iff (by simp [NodeTest.Holds, children])

@[simp] theorem passes_function (name : String) (args : List Expr) (distinct : Bool) :
    (function name args distinct).Passes t ↔ ∀ e ∈ args, e.Passes t :=
  .trans passes_iff (by simp [NodeTest.Holds, children])

@[simp] theorem passes_binary (l : Expr) (op : BinaryOp) (r : Expr) :
    (binary l op r).Passes t ↔ l.Passes t ∧ r.Passes t :=
  .trans passes_iff (by simp [NodeTest.Holds, children])

@[simp] theorem passes_unary (op : UnaryOp) (e : Expr) :
    (unary op e).Passes t ↔ e.Passes t :=
  .trans passes_iff (by simp [NodeTest.Holds, children])

@[simp] theorem passes_isNull (e : Expr) : (isNull e).Passes t ↔ e.Passes t :=
  .trans passes_iff (by simp [NodeTest.Holds, children])

@[simp] theorem passes_between (e low high : Expr) :
    (between e low high).Passes t ↔
      e.Passes t ∧ low.Passes t ∧ high.Passes t :=
  .trans passes_iff (by simp [NodeTest.Holds, children])

@[simp] theorem passes_elemOf (e items : Expr) :
    (elemOf e items).Passes t ↔ e.Passes t ∧ items.Passes t :=
  .trans passes_iff (by simp [NodeTest.Holds, children])

@[simp] theorem passes_caseWhen (branches : List (Expr × Expr)) (otherwise : Option Expr) :
    (caseWhen branches otherwise).Passes t ↔
      (∀ b ∈ branches, b.1.Passes t ∧ b.2.Passes t) ∧
        ∀ e ∈ otherwise, e.Passes t := by
  refine .trans passes_iff ⟨fun h ↦ ⟨fun b hb ↦ ?_, fun e he ↦ ?_⟩, fun h ↦ ⟨trivial, ?_⟩⟩
  · exact ⟨h.2 _ (mem_children_branch hb).1, h.2 _ (mem_children_branch hb).2⟩
  · exact h.2 e (by simp [children, Option.mem_def.1 he])
  · exact children_caseWhen h.1 h.2

@[simp] theorem passes_cast (e : Expr) (type : String) :
    (cast e type).Passes t ↔ e.Passes t :=
  .trans passes_iff (by simp [NodeTest.Holds, children])

@[simp] theorem passes_window (fn : Expr) (partition order : List Expr) (frame : Option Frame) :
    (window fn partition order frame).Passes t ↔
      t.window (.window fn partition order frame) ∧ fn.Passes t ∧
        (∀ e ∈ partition, e.Passes t) ∧ ∀ e ∈ order, e.Passes t :=
  .trans passes_iff (by simp [NodeTest.Holds, children, or_imp, forall_and])

@[simp] theorem passes_withinGroup (fn : Expr) (order : List Expr) :
    (withinGroup fn order).Passes t ↔
      fn.Passes t ∧ ∀ e ∈ order, e.Passes t :=
  .trans passes_iff (by simp [NodeTest.Holds, children])

@[simp] theorem passes_desc (e : Expr) : (desc e).Passes t ↔ e.Passes t :=
  .trans passes_iff (by simp [NodeTest.Holds, children])

end Constructors

/-! ## Trees over columns, with windows or without -/

/-- Columns are among these and have no qualifiers. Windows are those of calls, and there are none
unless there may be some. -/
def overTest (names : List String) (windows : Bool) : NodeTest where
  column qualifier name := qualifier = none ∧ name ∈ names
  window w := windows = true ∧ w.isCalledWindow = true

/-- The columns of the tree are among these and have no qualifiers. Its windows are those of calls,
and it has none unless there may be some. -/
abbrev Over (names : List String) (windows : Bool) (e : Expr) : Prop :=
  e.Passes (overTest names windows)

section Over

variable {names : List String} {windows : Bool}

@[simp] theorem overTest_column (qualifier : Option String) (name : String) :
    (overTest names windows).column qualifier name ↔ qualifier = none ∧ name ∈ names := .rfl

@[simp] theorem overTest_window (fn : Expr) (partition order : List Expr) (frame : Option Frame) :
    (overTest names windows).window (.window fn partition order frame) ↔
      windows = true ∧ fn.isAggregateCall = true := .rfl

theorem Over.within {e : Expr} (h : e.Over names windows) : e.Within names := by
  intro s hs
  have hholds := h s hs
  unfold Fits
  split
  · exact hholds.2
  · exact hholds.2
  · trivial

theorem Over.mono {names' : List String} {windows' : Bool} {e : Expr} (h : e.Over names windows)
    (hnames : ∀ name ∈ names, name ∈ names') (hwindows : windows = true → windows' = true) :
    e.Over names' windows' :=
  Passes.mono h (fun _ _ hcolumn ↦ ⟨hcolumn.1, hnames _ hcolumn.2⟩)
    (fun _ _ _ hwindow ↦ ⟨hwindows hwindow.1, hwindow.2⟩)

theorem Over.isWindowed {e : Expr} (h : e.Over names false) : e.isWindowed = false := by
  rw [isWindowed_eq_any, List.any_eq_false]
  intro s hs hwindow
  have hholds := h s hs
  cases s with
  | window fn partition order frame => exact Bool.noConfusion hholds.1
  | _ => cases hwindow

end Over

/-! ## Column references -/

theorem referencesAll_eq_flatMap (items : List Expr) :
    referencesAll items = items.flatMap columnReferences := by
  induction items with
  | nil => rfl
  | cons e rest ih => rw [referencesAll, ih, List.flatMap_cons]

theorem referencesBranches_eq_flatMap (branches : List (Expr × Expr)) :
    referencesBranches branches =
      branches.flatMap (fun b ↦ columnReferences b.1 ++ columnReferences b.2) := by
  induction branches with
  | nil => rfl
  | cons b rest ih => rw [referencesBranches, ih, List.flatMap_cons]

theorem columnReferences_eq_flatMap {e : Expr} (h : ∀ name, e ≠ .identifier none name) :
    e.columnReferences = e.children.flatMap columnReferences := by
  cases e with
  | identifier qualifier name =>
    cases qualifier with
    | none => exact absurd rfl (h name)
    | some qualifier => rfl
  | caseWhen branches otherwise =>
    cases otherwise <;> simp [columnReferences, referencesOption, children,
      referencesBranches_eq_flatMap, List.flatMap_assoc]
  | _ => simp [columnReferences, children, referencesAll_eq_flatMap]

theorem mem_parts_of_mem_columnReferences {e : Expr} {name : String}
    (h : name ∈ e.columnReferences) : .identifier none name ∈ e.parts := by
  induction e using Expr.induction_columns with
  | column other =>
    obtain rfl : name = other := by simpa [columnReferences] using h
    exact mem_parts_self _
  | node e hcolumn ih =>
    rw [columnReferences_eq_flatMap hcolumn] at h
    obtain ⟨c, hc, hname⟩ := List.mem_flatMap.1 h
    exact mem_parts_of_child hc (ih c hc hname)

/-! ## Definitions in place of columns -/

/-- A node that is no column stays, with definitions in the trees below it. -/
theorem inline_of_ne_column {defs : String → Option Expr} {e : Expr}
    (h : ∀ name, e ≠ .identifier none name) : e.inline defs = e.mapChildren (inline defs) := by
  cases e with
  | identifier qualifier name =>
    cases qualifier with
    | none => exact absurd rfl (h name)
    | some qualifier => rfl
  | _ => simp [inline, mapChildren, inlineAll_eq_map, inlineBranches_eq_map, inlineOption_eq_map]

/-- What becomes of a tree depends on the columns that it mentions only. -/
theorem inline_congr {f g : String → Option Expr} {e : Expr}
    (h : ∀ name ∈ e.columnReferences, f name = g name) : e.inline f = e.inline g := by
  induction e using induction_columns with
  | column name => rw [inline, inline, h name (by simp [columnReferences])]
  | node e hcolumn ih =>
    rw [columnReferences_eq_flatMap hcolumn] at h
    rw [inline_of_ne_column hcolumn, inline_of_ne_column hcolumn]
    exact mapChildren_congr fun c hc ↦
      ih c hc fun name hname ↦ h name (List.mem_flatMap.2 ⟨c, hc, hname⟩)

section Inline

variable {defs : String → Option Expr}

/-- Inlining goes through every node but a column. -/
theorem children_inline {e : Expr} (h : ∀ name, e ≠ .identifier none name) :
    (e.inline defs).children = e.children.map (inline defs) := by
  rw [inline_of_ne_column h, children_mapChildren]

/-- A part of an expression with definitions in place of columns is part of a definition, or it is
what became of a part of the expression. -/
theorem mem_parts_inline {e s : Expr} (h : s ∈ (e.inline defs).parts) :
    (∃ name definition, .identifier none name ∈ e.parts ∧ defs name = some definition ∧
      s ∈ definition.parts) ∨
        ∃ t ∈ e.parts, s = t.inline defs ∧
          ∀ name, t = .identifier none name → defs name = none := by
  induction e using induction_columns with
  | column name =>
    cases hdef : defs name with
    | none =>
      refine .inr ⟨_, mem_parts_self _, ?_, ?_⟩
      · simpa [inline, hdef, parts] using h
      · rintro _ ⟨⟩
        exact hdef
    | some definition =>
      exact .inl ⟨name, definition, mem_parts_self _, hdef, by simpa [inline, hdef] using h⟩
  | node e hcolumn ih =>
    rw [parts_eq, List.mem_cons, children_inline hcolumn, List.mem_flatMap] at h
    rcases h with rfl | ⟨c, hc, hs⟩
    · exact .inr ⟨e, mem_parts_self e, rfl, fun name hname ↦ absurd hname (hcolumn name)⟩
    · obtain ⟨child, hchild, rfl⟩ := List.mem_map.1 hc
      obtain ⟨name, definition, hname, hdef, hpart⟩ | ⟨t, ht, heq, hnone⟩ := ih child hchild hs
      · exact .inl ⟨name, definition, mem_parts_of_child hchild hname, hdef, hpart⟩
      · exact .inr ⟨t, mem_parts_of_child hchild ht, heq, hnone⟩

theorem isWindow_inline {e : Expr}
    (h : ∀ name, e = .identifier none name → defs name = none) :
    (e.inline defs).isWindow = e.isWindow := by
  cases e with
  | identifier qualifier name =>
    cases qualifier with
    | none => simp [inline, h name rfl]
    | some qualifier => rfl
  | _ => rfl

theorem isWindowed_inline {e : Expr} (he : e.isWindowed = false)
    (hdefs : ∀ name definition, defs name = some definition → definition.isWindowed = false) :
    (e.inline defs).isWindowed = false := by
  rw [isWindowed_eq_any, List.any_eq_false]
  intro s hs
  rw [Bool.not_eq_true]
  obtain ⟨name, definition, -, hdef, hpart⟩ | ⟨t, ht, rfl, hnone⟩ := mem_parts_inline hs
  · exact isWindow_of_mem_parts (hdefs name definition hdef) s hpart
  · rw [isWindow_inline hnone]
    exact isWindow_of_mem_parts he t ht

end Inline

end Sql.Expr

end SqlVerbs
