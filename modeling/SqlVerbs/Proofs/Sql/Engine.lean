import SqlVerbs.Proofs.Sql.Columns
import SqlVerbs.Proofs.Sql.NestedStatements

/-!
# Statements under any engine

What the statements of this library give under any engine, groups and joins included. The value of
an expression is made of its operator and the values of its operands. In a statement with groups, an
aggregate has one value for each group, which is made of the values of its operands in the rows of
that group. Inside another aggregate it means nothing in particular. Everything that does not matter
for groups is left to the engine: how rows are joined, grouped and sorted, and what window functions
give.
-/

namespace SqlVerbs.Sql

/-! ## Values made bottom up -/

namespace Expr

section Fold

variable {α : Type} (f : Expr → List α → α)

mutual

/-- A value for a tree, made of its root and the values of the trees right below it. -/
def fold : Expr → α
  | .literal value => f (.literal value) []
  | .identifier qualifier name => f (.identifier qualifier name) []
  | .star => f .star []
  | .raw text => f (.raw text) []
  | .list items => f (.list items) (foldAll items)
  | .function name args distinct => f (.function name args distinct) (foldAll args)
  | .binary l op r => f (.binary l op r) [fold l, fold r]
  | .unary op e => f (.unary op e) [fold e]
  | .isNull e => f (.isNull e) [fold e]
  | .between e low high => f (.between e low high) [fold e, fold low, fold high]
  | .elemOf e items => f (.elemOf e items) [fold e, fold items]
  | .caseWhen branches otherwise =>
    f (.caseWhen branches otherwise) (foldBranches branches ++ foldOption otherwise)
  | .cast e type => f (.cast e type) [fold e]
  | .window fn partition order frame =>
    f (.window fn partition order frame) (fold fn :: (foldAll partition ++ foldAll order))
  | .withinGroup fn order => f (.withinGroup fn order) (fold fn :: foldAll order)
  | .desc e => f (.desc e) [fold e]

def foldAll : List Expr → List α
  | [] => []
  | e :: rest => fold e :: foldAll rest

def foldBranches : List (Expr × Expr) → List α
  | [] => []
  | (cond, value) :: rest => fold cond :: fold value :: foldBranches rest

def foldOption : Option Expr → List α
  | none => []
  | some e => [fold e]

end

theorem foldAll_eq_map (items : List Expr) : foldAll f items = items.map (fold f) := by
  induction items with
  | nil => rfl
  | cons e rest ih => rw [foldAll, ih, List.map_cons]

theorem foldBranches_eq_map (branches : List (Expr × Expr)) :
    foldBranches f branches = (branches.flatMap (fun b ↦ [b.1, b.2])).map (fold f) := by
  induction branches with
  | nil => rfl
  | cons b rest ih => simp [foldBranches, ih]

theorem fold_eq (e : Expr) : e.fold f = f e (e.children.map (fold f)) := by
  cases e with
  | caseWhen branches otherwise =>
    cases otherwise <;> simp [fold, children, foldBranches_eq_map, foldOption]
  | _ => simp [fold, children, foldAll_eq_map]

end Fold

/-- The root of a tree, with nothing of the trees right below it but their number. -/
def shape : Expr → Expr
  | .literal value => .literal value
  | .identifier qualifier name => .identifier qualifier name
  | .star => .star
  | .raw text => .raw text
  | .list items => .list (.replicate items.length .star)
  | .function name args distinct => .function name (.replicate args.length .star) distinct
  | .binary _ op _ => .binary .star op .star
  | .unary op _ => .unary op .star
  | .isNull _ => .isNull .star
  | .between _ _ _ => .between .star .star .star
  | .elemOf _ _ => .elemOf .star .star
  | .caseWhen branches otherwise =>
    .caseWhen (.replicate branches.length (.star, .star)) (otherwise.map fun _ ↦ .star)
  | .cast _ type => .cast .star type
  | .window _ partition order frame =>
    .window .star (.replicate partition.length .star) (.replicate order.length .star) frame
  | .withinGroup _ order => .withinGroup .star (.replicate order.length .star)
  | .desc _ => .desc .star

/-- Definitions in place of columns change no root but that of a column. -/
theorem shape_inline {defs : String → Option Expr} {e : Expr}
    (h : ∀ name, e ≠ .identifier none name) : (e.inline defs).shape = e.shape := by
  cases e with
  | identifier qualifier name =>
    cases qualifier with
    | none => exact absurd rfl (h name)
    | some qualifier => rfl
  | caseWhen branches otherwise =>
    cases otherwise <;> simp [inline, shape, inlineBranches_eq_map, inlineOption]
  | _ => simp [inline, shape, inlineAll_eq_map]

end Expr

/-! ## Engines -/

/-- The values of columns in a row, by qualifier and name. -/
abbrev Env (V : Type) := Option String → String → V

/-- The values of columns in a row, by name. -/
abbrev Row (V : Type) := String → V

/-- Someone who runs statements: what everything means that statements are made of. -/
structure Engine (V : Type) where
  /-- A column that a row does not have. -/
  missing : V
  /-- An operator, given without its operands, on the values of these. -/
  operate : Expr → List V → V
  raw : String → Env V → V
  /-- Is the function an aggregate? -/
  isAggregate : String → Bool
  /-- A call of an aggregate, given without its operands, on their values in the rows of a group. -/
  aggregate : Expr → List (List V) → V
  /-- A column of a group, by its values in the rows. -/
  bare : List V → V
  /-- An expression with window functions, for one of several groups of rows. -/
  windowed : Expr → List (List (Env V)) → Nat → V
  /-- Does an output column make all rows one group? -/
  summarises : Expr → Bool
  /-- Does a condition with this value hold? -/
  holds : V → Bool
  join : JoinKind → (Env V → Bool) → List (Env V) → List (Env V) → List (Env V)
  /-- Groups of rows by their keys. -/
  group : List (List V) → List (Env V) → List (List (Env V))
  sort : List Expr → List (List (Env V)) → List (Row V) → List (Row V)
  distinct : List (Row V) → List (Row V)

namespace Engine

variable {V : Type} (E : Engine V)

/-- The value of an expression, where some calls have values of their own. -/
def value (env : Env V) (call : Expr → Option V) : Expr → V :=
  Expr.fold fun e values ↦
    match e with
    | .identifier qualifier name => env qualifier name
    | .raw text => E.raw text env
    | e => (call e).getD (E.operate e.shape values)

/-- The value of an expression in a row. -/
def inRow (env : Env V) : Expr → V := E.value env fun _ ↦ none

/-- Is the node a call of an aggregate? -/
def isCall : Expr → Bool
  | .function name _ _ => E.isAggregate name
  | .withinGroup _ _ => true
  | _ => false

/-- The value of an aggregate over the rows of a group. -/
def overGroup (group : List (Env V)) (e : Expr) : V :=
  E.aggregate e.shape (group.map fun env ↦ e.children.map (E.inRow env))

/-- The value of an expression for a group. -/
def inGroup (group : List (Env V)) : Expr → V :=
  E.value (fun qualifier name ↦ E.bare (group.map fun env ↦ env qualifier name))
    (fun e ↦ if E.isCall e then some (E.overGroup group e) else none)

/-! ## Expressions over the output columns of groups -/

theorem value_of_node (env : Env V) (call : Expr → Option V) {e : Expr}
    (hcolumn : ∀ qualifier name, e ≠ .identifier qualifier name) (hraw : ∀ text, e ≠ .raw text) :
    E.value env call e =
      (call e).getD (E.operate e.shape (e.children.map (E.value env call))) := by
  rw [value, Expr.fold_eq]
  split
  · exact absurd rfl (hcolumn _ _)
  · exact absurd rfl (hraw _)
  · rfl

/-- Does the expression have a meaning in a row, without aggregates and without text that is
written as it is? -/
def isScalar (e : Expr) : Bool :=
  e.parts.all fun s ↦
    match s with
    | .raw _ => false
    | s => !E.isCall s

theorem isCall_inline {defs : String → Option Expr} {e : Expr}
    (h : ∀ name, e ≠ .identifier none name) : E.isCall (e.inline defs) = E.isCall e := by
  cases e with
  | identifier qualifier name =>
    cases qualifier with
    | none => exact absurd rfl (h name)
    | some qualifier => rfl
  | _ => rfl

variable {E} in
/-- With definitions in place of columns, an expression has the value that it has over the values of
the definitions. -/
theorem value_inline {env env' : Env V} {call : Expr → Option V} {defs : String → Option Expr}
    {e : Expr} {names : List String} {windows : Bool} (hover : e.Over names windows)
    (hscalar : E.isScalar e = true)
    (hcall : ∀ s, E.isCall s = false → call s = none)
    (henv : ∀ name ∈ names,
      env' none name = E.value env call ((defs name).getD (.column name))) :
    E.value env call (e.inline defs) = E.inRow env' e := by
  induction e using Expr.induction_children with
  | node e ih =>
  have hself := List.all_eq_true.1 hscalar e (Expr.mem_parts_self e)
  have hchildren : ∀ c ∈ e.children, E.value env call (c.inline defs) = E.inRow env' c := by
    intro c hc
    refine ih c hc ((Expr.passes_iff.1 hover).2 c hc) (List.all_eq_true.2 fun s hs ↦ ?_)
    exact List.all_eq_true.1 hscalar s (Expr.mem_parts_of_child hc hs)
  by_cases hcolumn : ∃ qualifier name, e = .identifier qualifier name
  · obtain ⟨qualifier, name, rfl⟩ := hcolumn
    obtain ⟨rfl, hname⟩ := hover _ (Expr.mem_parts_self _)
    exact (henv name hname).symm
  · have hnode : ∀ qualifier name, e ≠ .identifier qualifier name := by simpa using hcolumn
    have hraw : ∀ text, e ≠ .raw text := by
      rintro text rfl
      cases hself
    have hplain : call (e.inline defs) = none := by
      apply hcall
      rw [E.isCall_inline (hnode none)]
      cases e <;> simp_all
    have hnode' : ∀ qualifier name, e.inline defs ≠ .identifier qualifier name := by
      cases e <;> simp_all [Expr.inline]
    have hraw' : ∀ text, e.inline defs ≠ .raw text := by
      cases e <;> simp_all [Expr.inline]
    rw [inRow, E.value_of_node _ _ hnode' hraw', E.value_of_node _ _ hnode hraw, hplain,
      Expr.shape_inline (hnode none), Expr.children_inline (hnode none), List.map_map]
    simp only [Option.getD_none]
    exact congrArg _ (List.map_congr_left hchildren)

variable {E} in
/-- Over the output columns of a group, an expression has the value that it has for the group with
their definitions. -/
theorem inGroup_inline {group : List (Env V)} {defs : String → Option Expr} {e : Expr}
    {names : List String} {windows : Bool} {env : Env V} (hover : e.Over names windows)
    (hscalar : E.isScalar e = true)
    (henv : ∀ name ∈ names, ∃ definition, defs name = some definition ∧
      env none name = E.inGroup group definition) :
    E.inGroup group (e.inline defs) = E.inRow env e := by
  refine value_inline hover hscalar (fun s hs ↦ by simp [hs]) fun name hname ↦ ?_
  obtain ⟨definition, hdefinition, hvalue⟩ := henv name hname
  rw [hdefinition]
  exact hvalue

/-! ## Statements -/

/-- The output row for the values of expressions. -/
def output (value : Expr → V) : SelectList → Row V
  | .star => fun name ↦ value (.column name)
  | .columns items => fun name ↦
    match items.find? (fun item ↦ item.outputName? = some name) with
    | some item => value item.expr
    | none => E.missing

/-- Are the rows of a statement groups? -/
def isGrouped {σ : Type} (select : SelectFrom σ) : Bool :=
  !select.groups.isEmpty || !select.having.isEmpty || select.items.exprs.any E.summarises

/-- The groups of rows; without keys it is one. -/
def groupsOf (keys : List Expr) (rows : List (Env V)) : List (List (Env V)) :=
  if keys.isEmpty then [rows]
  else E.group (rows.map fun env ↦ keys.map (E.inRow env)) rows

/-- The last clauses of a statement. -/
def finish {σ : Type} (select : SelectFrom σ) (units : List (List (Env V)))
    (rows : List (Row V)) : List (Row V) :=
  let rows := if select.distinct then E.distinct rows else rows
  let rows := if select.order.isEmpty then rows else E.sort select.order units rows
  match select.limit with
  | some count => rows.take count.toNat
  | none => rows

/-- The output rows of groups, or of rows taken for groups of one. -/
def project (items : SelectList) (units : List (List (Env V)))
    (value : List (Env V) → Expr → V) : List (Row V) :=
  units.mapIdx fun i unit ↦
    E.output (fun e ↦ if e.isWindowed then E.windowed e units i else value unit e) items

/-- The rows of a statement over those of its `FROM` clause. -/
def answer {σ : Type} (select : SelectFrom σ) (rows : List (Env V)) : List (Row V) :=
  let kept := rows.filter fun env ↦ select.filters.all fun e ↦ E.holds (E.inRow env e)
  if E.isGrouped select then
    let groups := (E.groupsOf select.groups kept).filter fun group ↦
      select.having.all fun e ↦ E.holds (E.inGroup group e)
    E.finish select groups (E.project select.items groups E.inGroup)
  else
    let units := kept.map fun env ↦ [env]
    E.finish select units
      (E.project select.items units fun unit ↦ E.inRow (unit.headD fun _ _ ↦ E.missing))

/-- Output columns without window functions are computed group by group. -/
theorem project_eq_map {items : SelectList} (h : ∀ e ∈ items.exprs, e.isWindowed = false)
    (units : List (List (Env V))) (value : List (Env V) → Expr → V) :
    E.project items units value = units.map fun unit ↦ E.output (value unit) items := by
  have hplain (i : Nat) (unit : List (Env V)) :
      E.output (fun e ↦ if e.isWindowed then E.windowed e units i else value unit e) items =
        E.output (value unit) items := by
    funext name
    cases items with
    | star => simp [output, Expr.column, Expr.isWindowed]
    | columns items =>
      simp only [output]
      split
      · rename_i item hitem
        have hmem : item.expr ∈ SelectList.exprs (.columns items) :=
          List.mem_map_of_mem (List.mem_of_find?_eq_some hitem)
        rw [if_neg (by simp [h item.expr hmem])]
      · rfl
  refine List.ext_getElem? (fun i ↦ ?_)
  rw [project, List.getElem?_mapIdx, List.getElem?_map]
  simp only [hplain]

/-- A row of a source, whose columns may be qualified by its label. -/
def labelled (label : Option String) (row : Row V) : Env V := fun qualifier name ↦
  if qualifier = none ∨ qualifier = label then row name else E.missing

variable (tables : TableName → List (Row V))

mutual

/-- The rows of a source. -/
def sourceRows : Source → List (Env V)
  | .table name label => (tables name).map (E.labelled label)
  | .subquery select label => (rows select).map (E.labelled (some label))

/-- The rows of a statement. -/
def rows : SelectFrom Source → List (Row V)
  | ⟨distinct, items, source, joins, filters, groups, having, order, limit⟩ =>
    E.answer (⟨distinct, items, source, joins, filters, groups, having, order, limit⟩ : Select)
      (joinedRows (sourceRows source) joins)

/-- The rows of a source with those that are joined. -/
def joinedRows (before : List (Env V)) : List (JoinWith Source) → List (Env V)
  | [] => before
  | ⟨kind, source, on⟩ :: rest =>
    joinedRows (E.join kind (fun env ↦ on.all fun e ↦ E.holds (E.inRow env e)) before
      (sourceRows source)) rest

end

theorem rows_eq (select : Select) :
    E.rows tables select =
      E.answer select (E.joinedRows tables (E.sourceRows tables select.source) select.joins) := by
  rw [rows]

/-! ## Conditions on groups and conditions on their output columns -/

section Groups

variable {σ : Type} {select : SelectFrom σ} (hdistinct : select.distinct = false)
  (horder : select.order = []) (hlimit : select.limit = none)
  (hitems : ∀ e ∈ select.items.exprs, e.isWindowed = false)

include hdistinct horder hlimit hitems

/-- Without last clauses and window functions, every group that is kept gives a row. -/
theorem answer_of_grouped (hgrouped : E.isGrouped select = true) (rows : List (Env V)) :
    E.answer select rows = ((E.groupsOf select.groups (rows.filter fun env ↦
      select.filters.all fun e ↦ E.holds (E.inRow env e))).filter fun group ↦
        select.having.all fun e ↦ E.holds (E.inGroup group e)).map fun group ↦
          E.output (E.inGroup group) select.items := by
  simp only [answer, hgrouped, if_true, finish, hdistinct, horder, hlimit,
    E.project_eq_map hitems, Bool.false_eq_true, if_false, List.isEmpty_nil]

variable {E} in
/-- A condition on groups keeps the output rows for which a condition on these holds, if both have
the same value for every group. -/
theorem answer_having {onGroup onRow : Expr} {label : Option String}
    (hhaving : select.having = [onGroup])
    (hgrouped : E.isGrouped { select with having := [] } = true)
    (hvalue : ∀ group, E.inGroup group onGroup =
      E.inRow (E.labelled label (E.output (E.inGroup group) select.items)) onRow)
    (rows : List (Env V)) :
    E.answer select rows = (E.answer { select with having := [] } rows).filter fun row ↦
      E.holds (E.inRow (E.labelled label row) onRow) := by
  have hgrouped' : E.isGrouped select = true := by simp [isGrouped, hhaving]
  rw [E.answer_of_grouped hdistinct horder hlimit hitems hgrouped',
    @answer_of_grouped V E σ { select with having := [] } hdistinct horder hlimit hitems hgrouped,
    List.filter_map]
  simp [hhaving, Function.comp_def, hvalue]

end Groups

/-- A statement that only keeps some rows of another one. -/
theorem rows_filtered (inner : Select) (label : String) (condition : Expr) :
    E.rows tables { source := .subquery inner label, filters := [condition] } =
      (E.rows tables inner).filter fun row ↦
        E.holds (E.inRow (E.labelled (some label) row) condition) := by
  have hcolumn (row : Row V) : (fun name ↦
      E.inRow (E.labelled (some label) row) (.column name)) = row := by
    funext name
    rfl
  have hstar : ∀ e ∈ SelectList.star.exprs, e.isWindowed = false := List.forall_mem_nil _
  rw [rows_eq]
  simp only [joinedRows, sourceRows, answer, isGrouped, SelectList.exprs, E.project_eq_map hstar]
  simp only [finish, output, List.filter_map, List.map_map, Function.comp_def, List.isEmpty_nil,
    List.all_cons, List.all_nil, Bool.and_true, Bool.not_true, Bool.or_self, List.any_nil,
    Bool.false_eq_true, if_false, if_true, List.headD_cons]
  exact (List.map_congr_left fun row _ ↦ hcolumn row).trans (List.map_id _)

end Engine

end SqlVerbs.Sql
