import Mathlib.Logic.Basic
import SqlVerbs.Proofs.Sql.Traversal

/-!
# The meaning of SQL expressions

Any meaning of the operators gives a meaning to expressions. An expression over some rows has a
value in every row, and it may be taken for an aggregate of all rows. The value of a window
function in a row depends on all rows. The value of any other expression depends on the row alone.
-/

namespace SqlVerbs.Sql

/-- Is the node a window function? -/
def Expr.isWindow : Expr → Bool
  | .window .. => true
  | _ => false

theorem Expr.isWindowed_eq_any (e : Expr) : e.isWindowed = e.parts.any isWindow := by
  have hlist (items : List Expr) (h : ∀ c ∈ items, c.isWindowed = c.parts.any isWindow) :
      anyWindowed items = (items.flatMap parts).any isWindow := by
    induction items with
    | nil => rfl
    | cons c items ih =>
      rw [List.forall_mem_cons] at h
      rw [anyWindowed, h.1, ih h.2, List.flatMap_cons, List.any_append]
  induction e using Expr.induction with
  | literal | identifier | star | raw => rfl
  | list items ih => simp [isWindowed, parts, isWindow, partsAll_eq_flatMap, hlist items ih]
  | function name args distinct ih =>
    simp [isWindowed, parts, isWindow, partsAll_eq_flatMap, hlist args ih]
  | caseWhen branches otherwise ihb iho =>
    have hbranches : anyBranchWindowed branches =
        (branches.flatMap (fun b ↦ parts b.1 ++ parts b.2)).any isWindow := by
      clear iho
      induction branches with
      | nil => rfl
      | cons b branches ih =>
        rw [List.forall_mem_cons] at ihb
        simp [anyBranchWindowed, ihb.1.1, ihb.1.2, ih ihb.2, Bool.or_assoc]
    cases otherwise with
    | none =>
      simp [isWindowed, optionWindowed, parts, partsOption, isWindow, partsBranches_eq_flatMap,
        hbranches]
    | some e =>
      simp [isWindowed, optionWindowed, parts, partsOption, isWindow, partsBranches_eq_flatMap,
        hbranches, iho e rfl]
  | withinGroup fn order ihf iho =>
    simp [isWindowed, parts, isWindow, partsAll_eq_flatMap, ihf, hlist order iho]
  | _ => simp_all [isWindowed, parts, isWindow, Bool.or_assoc]

theorem Expr.isWindow_of_mem_parts {e : Expr} (h : e.isWindowed = false) :
    ∀ s ∈ e.parts, s.isWindow = false := by
  rw [isWindowed_eq_any, List.any_eq_false] at h
  exact fun s hs ↦ Bool.eq_false_iff.2 (h s hs)

/-- Is the tree a call of a function, possibly within groups? -/
def Expr.isAggregateCall : Expr → Bool
  | .function .. => true
  | .withinGroup fn _ => fn.isAggregateCall
  | _ => false

/-- If the node is a window function, is it one of a call? -/
def Expr.isCalledWindow : Expr → Bool
  | .window fn _ _ _ => fn.isAggregateCall
  | _ => true

theorem Expr.inlineAll_eq_map (defs : String → Option Expr) (items : List Expr) :
    inlineAll defs items = items.map (inline defs) := by
  induction items with
  | nil => rfl
  | cons e rest ih => rw [inlineAll, ih, List.map_cons]

theorem Expr.inlineBranches_eq_map (defs : String → Option Expr) (branches : List (Expr × Expr)) :
    inlineBranches defs branches = branches.map (fun b ↦ (inline defs b.1, inline defs b.2)) := by
  induction branches with
  | nil => rfl
  | cons b rest ih => rw [inlineBranches, ih, List.map_cons]

theorem Expr.inlineOption_eq_map (defs : String → Option Expr) (otherwise : Option Expr) :
    inlineOption defs otherwise = otherwise.map (inline defs) := by
  cases otherwise <;> rfl

/-- A meaning of the operators. Values are of type `V`, and aggregates of type `A`. -/
structure Semantics (V A : Type) where
  literal : Literal → V
  /-- A column that the rows do not have. -/
  missing : Option String → String → V
  star : V
  raw : String → V
  list : List V → V
  function : String → List V → Bool → V
  binary : V → BinaryOp → V → V
  unary : UnaryOp → V → V
  isNull : V → V
  between : V → V → V → V
  elemOf : V → V → V
  caseWhen : List (V × V) → Option V → V
  cast : V → String → V
  withinGroup : V → List V → V
  desc : V → V
  /-- A function of whole columns. -/
  aggregate : String → List (List V) → Bool → A
  aggregateWithin : A → List (List V) → A
  /-- What is no call of a function, taken for an aggregate. -/
  aggregateOf : List V → A
  /-- An aggregate over partitions, ordered, in a frame, among so many rows, for the row at a
  place. -/
  window : A → List (List V) → List (List V) → Option Frame → Nat → Nat → V
  /-- Does a condition with this value hold? -/
  holds : V → Bool

/-- The values of a name in all rows. -/
abbrev Columns (V : Type) := String → Nat → V

/-- What an expression means over some rows. -/
structure Meaning (V A : Type) where
  /-- The value in a row. -/
  value : Nat → V
  /-- The aggregate of all rows. -/
  total : A

namespace Meaning

variable {V A : Type}

/-- The values in the first `n` rows. -/
def column (n : Nat) (m : Meaning V A) : List V := (List.range n).map m.value

end Meaning

namespace Semantics

variable {V A : Type} (S : Semantics V A) (n : Nat)

/-- An expression that is no aggregate. -/
def plain (value : Nat → V) : Meaning V A := ⟨value, S.aggregateOf ((List.range n).map value)⟩

mutual

/-- The meaning of an expression over `n` rows with these columns. -/
def eval (columns : Columns V) : Expr → Meaning V A
  | .literal value => S.plain n (fun _ ↦ S.literal value)
  | .identifier none name => S.plain n (columns name)
  | .identifier (some qualifier) name => S.plain n (fun _ ↦ S.missing (some qualifier) name)
  | .star => S.plain n (fun _ ↦ S.star)
  | .raw text => S.plain n (fun _ ↦ S.raw text)
  | .list items =>
    let items := evalAll columns items
    S.plain n (fun i ↦ S.list (items.map (·.value i)))
  | .function name args distinct =>
    let args := evalAll columns args
    ⟨fun i ↦ S.function name (args.map (·.value i)) distinct,
      S.aggregate name (args.map (Meaning.column n)) distinct⟩
  | .binary l op r =>
    let l := eval columns l
    let r := eval columns r
    S.plain n (fun i ↦ S.binary (l.value i) op (r.value i))
  | .unary op e =>
    let e := eval columns e
    S.plain n (fun i ↦ S.unary op (e.value i))
  | .isNull e =>
    let e := eval columns e
    S.plain n (fun i ↦ S.isNull (e.value i))
  | .between e low high =>
    let e := eval columns e
    let low := eval columns low
    let high := eval columns high
    S.plain n (fun i ↦ S.between (e.value i) (low.value i) (high.value i))
  | .elemOf e items =>
    let e := eval columns e
    let items := eval columns items
    S.plain n (fun i ↦ S.elemOf (e.value i) (items.value i))
  | .caseWhen branches otherwise =>
    let branches := evalBranches columns branches
    let otherwise := evalOption columns otherwise
    S.plain n (fun i ↦ S.caseWhen (branches.map (fun b ↦ (b.1.value i, b.2.value i)))
      (otherwise.map (·.value i)))
  | .cast e type =>
    let e := eval columns e
    S.plain n (fun i ↦ S.cast (e.value i) type)
  | .window fn partition order frame =>
    let fn := eval columns fn
    let partition := evalAll columns partition
    let order := evalAll columns order
    S.plain n (S.window fn.total (partition.map (Meaning.column n))
      (order.map (Meaning.column n)) frame n)
  | .withinGroup fn order =>
    let fn := eval columns fn
    let order := evalAll columns order
    ⟨fun i ↦ S.withinGroup (fn.value i) (order.map (·.value i)),
      S.aggregateWithin fn.total (order.map (Meaning.column n))⟩
  | .desc e =>
    let e := eval columns e
    S.plain n (fun i ↦ S.desc (e.value i))

def evalAll (columns : Columns V) : List Expr → List (Meaning V A)
  | [] => []
  | e :: rest => eval columns e :: evalAll columns rest

def evalBranches (columns : Columns V) : List (Expr × Expr) → List (Meaning V A × Meaning V A)
  | [] => []
  | (cond, value) :: rest => (eval columns cond, eval columns value) :: evalBranches columns rest

def evalOption (columns : Columns V) : Option Expr → Option (Meaning V A)
  | none => none
  | some e => some (eval columns e)

end

attribute [grind =] eval

section Lists

variable (columns : Columns V)

@[simp] theorem value_plain (value : Nat → V) : (S.plain n value).value = value := rfl

theorem evalAll_eq_map (items : List Expr) :
    S.evalAll n columns items = items.map (S.eval n columns) := by
  induction items with
  | nil => rfl
  | cons e rest ih => rw [evalAll, ih, List.map_cons]

theorem evalBranches_eq_map (branches : List (Expr × Expr)) :
    S.evalBranches n columns branches =
      branches.map (fun b ↦ (S.eval n columns b.1, S.eval n columns b.2)) := by
  induction branches with
  | nil => rfl
  | cons b rest ih => rw [evalBranches, ih, List.map_cons]

theorem evalOption_eq_map (otherwise : Option Expr) :
    S.evalOption n columns otherwise = otherwise.map (S.eval n columns) := by
  cases otherwise <;> rfl

end Lists

end Semantics

/-! ## What a meaning depends on -/

/-- The same values in the first `n` rows, and the same aggregate. -/
structure Meaning.Agrees {V A : Type} (n : Nat) (m m' : Meaning V A) : Prop where
  value : ∀ i < n, m.value i = m'.value i
  total : m.total = m'.total

namespace Meaning.Agrees

variable {V A : Type} {S : Semantics V A} {n : Nat}

theorem column {m m' : Meaning V A} (h : m.Agrees n m') : m.column n = m'.column n :=
  List.map_congr_left (fun i hi ↦ h.value i (List.mem_range.1 hi))

theorem plain {f g : Nat → V} (h : ∀ i < n, f i = g i) :
    (S.plain n f).Agrees n (S.plain n g) where
  value := h
  total := congrArg S.aggregateOf (List.map_congr_left (fun i hi ↦ h i (List.mem_range.1 hi)))

section Lists

variable {f g : Expr → Meaning V A} {items : List Expr} (h : ∀ e ∈ items, (f e).Agrees n (g e))

include h

theorem values {i : Nat} (hi : i < n) :
    (items.map f).map (·.value i) = (items.map g).map (·.value i) := by
  simp only [List.map_map]
  exact List.map_congr_left (fun e he ↦ (h e he).value i hi)

theorem columns : (items.map f).map (Meaning.column n) = (items.map g).map (Meaning.column n) := by
  simp only [List.map_map]
  exact List.map_congr_left (fun e he ↦ (h e he).column)

end Lists

end Meaning.Agrees

namespace Semantics

variable {V A : Type} (S : Semantics V A) {n : Nat}

/-- The meaning of an expression depends on the columns that it mentions. -/
theorem eval_congr {columns columns' : Columns V} {e : Expr}
    (h : ∀ name, .identifier none name ∈ e.parts → ∀ i < n, columns name i = columns' name i) :
    (S.eval n columns e).Agrees n (S.eval n columns' e) := by
  induction e using Expr.induction_children with
  | node e ih =>
  replace ih : ∀ c ∈ e.children, (S.eval n columns c).Agrees n (S.eval n columns' c) :=
    fun c hc ↦ ih c hc (fun name hname ↦ h name (Expr.mem_parts_of_child hc hname))
  cases e with
  | literal | star | raw => exact ⟨fun _ _ ↦ rfl, rfl⟩
  | identifier qualifier name =>
    cases qualifier with
    | some qualifier => exact ⟨fun _ _ ↦ rfl, rfl⟩
    | none => exact .plain (h name (Expr.mem_parts_self _))
  | list items =>
    simp only [eval, evalAll_eq_map]
    exact .plain (fun i hi ↦ congrArg S.list (Meaning.Agrees.values ih hi))
  | function name args distinct =>
    simp only [eval, evalAll_eq_map]
    exact ⟨fun i hi ↦ congrArg (S.function name · distinct) (Meaning.Agrees.values ih hi),
      congrArg (S.aggregate name · distinct) (Meaning.Agrees.columns ih)⟩
  | binary l op r =>
    have hl := ih l (by simp [Expr.children])
    have hr := ih r (by simp [Expr.children])
    exact .plain (fun i hi ↦ by rw [hl.value i hi, hr.value i hi])
  | unary op e =>
    have he := ih e (by simp [Expr.children])
    exact .plain (fun i hi ↦ by rw [he.value i hi])
  | isNull e =>
    have he := ih e (by simp [Expr.children])
    exact .plain (fun i hi ↦ by rw [he.value i hi])
  | between e low high =>
    have he := ih e (by simp [Expr.children])
    have hlow := ih low (by simp [Expr.children])
    have hhigh := ih high (by simp [Expr.children])
    exact .plain (fun i hi ↦ by rw [he.value i hi, hlow.value i hi, hhigh.value i hi])
  | elemOf e items =>
    have he := ih e (by simp [Expr.children])
    have hitems := ih items (by simp [Expr.children])
    exact .plain (fun i hi ↦ by rw [he.value i hi, hitems.value i hi])
  | caseWhen branches otherwise =>
    simp only [eval, evalBranches_eq_map, evalOption_eq_map]
    refine .plain (fun i hi ↦ ?_)
    congr 1
    · simp only [List.map_map]
      refine List.map_congr_left (fun b hb ↦ Prod.ext ?_ ?_)
      · exact (ih b.1 (Expr.mem_children_branch hb).1).value i hi
      · exact (ih b.2 (Expr.mem_children_branch hb).2).value i hi
    · cases otherwise with
      | none => rfl
      | some e => exact congrArg some ((ih e (by simp [Expr.children])).value i hi)
  | cast e type =>
    have he := ih e (by simp [Expr.children])
    exact .plain (fun i hi ↦ by rw [he.value i hi])
  | window fn partition order frame =>
    have hfn := ih fn (by simp [Expr.children])
    have hpartition : ∀ c ∈ partition, _ := fun c hc ↦ ih c (by simp [Expr.children, hc])
    have horder : ∀ c ∈ order, _ := fun c hc ↦ ih c (by simp [Expr.children, hc])
    -- A window reads whole columns, so agreement in all of the rows is needed here.
    simp only [eval, evalAll_eq_map, hfn.total, Meaning.Agrees.columns hpartition,
      Meaning.Agrees.columns horder]
    exact ⟨fun _ _ ↦ rfl, rfl⟩
  | withinGroup fn order =>
    have hfn := ih fn (by simp [Expr.children])
    have horder : ∀ c ∈ order, _ := fun c hc ↦ ih c (by simp [Expr.children, hc])
    simp only [eval, evalAll_eq_map]
    exact ⟨fun i hi ↦ congrArg₂ S.withinGroup (hfn.value i hi) (Meaning.Agrees.values horder hi),
      congrArg₂ S.aggregateWithin hfn.total (Meaning.Agrees.columns horder)⟩
  | desc e =>
    have he := ih e (by simp [Expr.children])
    exact .plain (fun i hi ↦ by rw [he.value i hi])

/-- The value of an expression without windows in a row depends on the row alone. -/
theorem value_eval_local {n' : Nat} {columns columns' : Columns V} {i j : Nat} {e : Expr}
    (hrow : ∀ name, columns name i = columns' name j)
    (h : ∀ s ∈ e.parts, s.isWindow = false) :
    (S.eval n columns e).value i = (S.eval n' columns' e).value j := by
  induction e using Expr.induction_children with
  | node e ih =>
  replace ih : ∀ c ∈ e.children, (S.eval n columns c).value i = (S.eval n' columns' c).value j :=
    fun c hc ↦ ih c hc (fun s hs ↦ h s (Expr.mem_parts_of_child hc hs))
  have hvalues (items : List Expr) (hitems : ∀ c ∈ items, c ∈ e.children) :
      (S.evalAll n columns items).map (·.value i) =
        (S.evalAll n' columns' items).map (·.value j) := by
    simp only [evalAll_eq_map, List.map_map]
    exact List.map_congr_left (fun c hc ↦ ih c (hitems c hc))
  cases e with
  | literal | star | raw => rfl
  | identifier qualifier name =>
    cases qualifier with
    | some qualifier => rfl
    | none => exact hrow name
  | list items => exact congrArg S.list (hvalues items (fun _ hc ↦ hc))
  | function name args distinct =>
    exact congrArg (S.function name · distinct) (hvalues args (fun _ hc ↦ hc))
  | binary l op r => simp [eval, ih l (by simp [Expr.children]), ih r (by simp [Expr.children])]
  | unary op e => simp [eval, ih e (by simp [Expr.children])]
  | isNull e => simp [eval, ih e (by simp [Expr.children])]
  | between e low high =>
    simp [eval, ih e (by simp [Expr.children]), ih low (by simp [Expr.children]),
      ih high (by simp [Expr.children])]
  | elemOf e items =>
    simp [eval, ih e (by simp [Expr.children]), ih items (by simp [Expr.children])]
  | caseWhen branches otherwise =>
    simp only [eval, evalBranches_eq_map, evalOption_eq_map, value_plain, List.map_map]
    congr 1
    · refine List.map_congr_left (fun b hb ↦ Prod.ext ?_ ?_)
      · exact ih b.1 (Expr.mem_children_branch hb).1
      · exact ih b.2 (Expr.mem_children_branch hb).2
    · cases otherwise with
      | none => rfl
      | some e => exact congrArg some (ih e (by simp [Expr.children]))
  | cast e type => simp [eval, ih e (by simp [Expr.children])]
  -- Excluded by `h`: a window reads the other rows.
  | window => exact absurd (h _ (Expr.mem_parts_self _)) (by simp [Expr.isWindow])
  | withinGroup fn order =>
    exact congrArg₂ S.withinGroup (ih fn (by simp [Expr.children]))
      (hvalues order (fun c hc ↦ by simp [Expr.children, hc]))
  | desc e => simp [eval, ih e (by simp [Expr.children])]

/-- Columns some of which are given by definitions. -/
def defined (n : Nat) (columns : Columns V) (defs : String → Option Expr) : Columns V :=
  fun name ↦
    match defs name with
    | some e => (S.eval n columns e).value
    | none => columns name

/-- Definitions may be put in the places of names. -/
theorem eval_inline (columns : Columns V) (defs : String → Option Expr) {e : Expr}
    (h : ∀ s ∈ e.parts, s.isCalledWindow = true) :
    (S.eval n columns (e.inline defs)).value = (S.eval n (S.defined n columns defs) e).value ∧
      (e.isAggregateCall = true → (S.eval n columns (e.inline defs)).total =
        (S.eval n (S.defined n columns defs) e).total) := by
  -- Totals are claimed of aggregate calls only: a definition may be such a call where the name that
  -- it replaces is none.
  induction e using Expr.induction_children with
  | node e ih =>
  replace ih : ∀ c ∈ e.children, (S.eval n columns (c.inline defs)).value =
      (S.eval n (S.defined n columns defs) c).value ∧
      (c.isAggregateCall = true → (S.eval n columns (c.inline defs)).total =
        (S.eval n (S.defined n columns defs) c).total) :=
    fun c hc ↦ ih c hc (fun s hs ↦ h s (Expr.mem_parts_of_child hc hs))
  have hvalues (items : List Expr) (hitems : ∀ c ∈ items, c ∈ e.children) (i : Nat) :
      (S.evalAll n columns (Expr.inlineAll defs items)).map (·.value i) =
        (S.evalAll n (S.defined n columns defs) items).map (·.value i) := by
    simp only [evalAll_eq_map, Expr.inlineAll_eq_map, List.map_map]
    exact List.map_congr_left (fun c hc ↦ congrFun (ih c (hitems c hc)).1 i)
  have hcolumns (items : List Expr) (hitems : ∀ c ∈ items, c ∈ e.children) :
      (S.evalAll n columns (Expr.inlineAll defs items)).map (Meaning.column n) =
        (S.evalAll n (S.defined n columns defs) items).map (Meaning.column n) := by
    simp only [evalAll_eq_map, Expr.inlineAll_eq_map, List.map_map]
    refine List.map_congr_left (fun c hc ↦ ?_)
    simp [Meaning.column, (ih c (hitems c hc)).1]
  cases e with
  | literal | star | raw => exact ⟨rfl, (absurd · Bool.false_ne_true)⟩
  | identifier qualifier name =>
    cases qualifier with
    | some qualifier => exact ⟨rfl, (absurd · Bool.false_ne_true)⟩
    | none =>
      refine ⟨?_, (absurd · Bool.false_ne_true)⟩
      simp only [Expr.inline, eval, value_plain, defined]
      cases defs name <;> rfl
  | list items =>
    refine ⟨funext (fun i ↦ ?_), (absurd · Bool.false_ne_true)⟩
    exact congrArg S.list (hvalues items (fun _ hc ↦ hc) i)
  | function name args distinct =>
    refine ⟨funext (fun i ↦ ?_), fun _ ↦ ?_⟩
    · exact congrArg (S.function name · distinct) (hvalues args (fun _ hc ↦ hc) i)
    · exact congrArg (S.aggregate name · distinct) (hcolumns args (fun _ hc ↦ hc))
  | binary l op r =>
    have hl := (ih l (by simp [Expr.children])).1
    have hr := (ih r (by simp [Expr.children])).1
    exact ⟨by simp [Expr.inline, eval, hl, hr], (absurd · Bool.false_ne_true)⟩
  | unary op e =>
    exact ⟨by simp [Expr.inline, eval, (ih e (by simp [Expr.children])).1], (absurd · Bool.false_ne_true)⟩
  | isNull e =>
    exact ⟨by simp [Expr.inline, eval, (ih e (by simp [Expr.children])).1], (absurd · Bool.false_ne_true)⟩
  | between e low high =>
    have he := (ih e (by simp [Expr.children])).1
    have hlow := (ih low (by simp [Expr.children])).1
    have hhigh := (ih high (by simp [Expr.children])).1
    exact ⟨by simp [Expr.inline, eval, he, hlow, hhigh], (absurd · Bool.false_ne_true)⟩
  | elemOf e items =>
    have he := (ih e (by simp [Expr.children])).1
    have hitems := (ih items (by simp [Expr.children])).1
    exact ⟨by simp [Expr.inline, eval, he, hitems], (absurd · Bool.false_ne_true)⟩
  | caseWhen branches otherwise =>
    refine ⟨funext (fun i ↦ ?_), (absurd · Bool.false_ne_true)⟩
    simp only [Expr.inline, eval, evalBranches_eq_map, evalOption_eq_map,
      Expr.inlineBranches_eq_map, Expr.inlineOption_eq_map, value_plain, List.map_map]
    congr 1
    · refine List.map_congr_left (fun b hb ↦ Prod.ext ?_ ?_)
      · exact congrFun (ih b.1 (Expr.mem_children_branch hb).1).1 i
      · exact congrFun (ih b.2 (Expr.mem_children_branch hb).2).1 i
    · cases otherwise with
      | none => rfl
      | some e => exact congrArg some (congrFun (ih e (by simp [Expr.children])).1 i)
  | cast e type =>
    exact ⟨by simp [Expr.inline, eval, (ih e (by simp [Expr.children])).1], (absurd · Bool.false_ne_true)⟩
  | window fn partition order frame =>
    -- A window is over the total of its function, which is an aggregate call.
    have hfn := (ih fn (by simp [Expr.children])).2 (h _ (Expr.mem_parts_self _))
    have hpartition := hcolumns partition (fun c hc ↦ by simp [Expr.children, hc])
    have horder := hcolumns order (fun c hc ↦ by simp [Expr.children, hc])
    exact ⟨by simp only [Expr.inline, eval, value_plain, hfn, hpartition, horder], (absurd · Bool.false_ne_true)⟩
  | withinGroup fn order =>
    have hfn := ih fn (by simp [Expr.children])
    refine ⟨funext (fun i ↦ ?_), fun hcall ↦ ?_⟩
    · exact congrArg₂ S.withinGroup (congrFun hfn.1 i)
        (hvalues order (fun c hc ↦ by simp [Expr.children, hc]) i)
    · exact congrArg₂ S.aggregateWithin (hfn.2 hcall)
        (hcolumns order (fun c hc ↦ by simp [Expr.children, hc]))
  | desc e =>
    exact ⟨by simp [Expr.inline, eval, (ih e (by simp [Expr.children])).1], (absurd · Bool.false_ne_true)⟩

end Semantics

end SqlVerbs.Sql
