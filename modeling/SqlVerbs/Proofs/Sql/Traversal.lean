import Mathlib.Algebra.GroupWithZero.Nat
import SqlVerbs.Sql.Printer

/-!
# Walking through SQL trees

Lists, branches and alternatives sit between a SQL tree and its subtrees. The induction principle
here goes through them at once, so that a proof about trees has one case for each constructor. Two
traversals are shared by the theory of the printer: the list of all subtrees, and a rebuilding of
the tree that may change its leaves and its binary nodes.
-/

namespace SqlVerbs.Sql.Expr

/-- Induction on trees, with all subtrees of a node at hand. -/
theorem induction {motive : Expr → Prop}
    (literal : ∀ value, motive (.literal value))
    (identifier : ∀ qualifier name, motive (.identifier qualifier name))
    (star : motive .star)
    (list : ∀ items, (∀ e ∈ items, motive e) → motive (.list items))
    (function : ∀ name args distinct, (∀ e ∈ args, motive e) →
      motive (.function name args distinct))
    (binary : ∀ l op r, motive l → motive r → motive (.binary l op r))
    (unary : ∀ op e, motive e → motive (.unary op e))
    (isNull : ∀ e, motive e → motive (.isNull e))
    (between : ∀ e low high, motive e → motive low → motive high → motive (.between e low high))
    (elemOf : ∀ e items, motive e → motive items → motive (.elemOf e items))
    (caseWhen : ∀ branches otherwise, (∀ b ∈ branches, motive b.1 ∧ motive b.2) →
      (∀ e ∈ otherwise, motive e) → motive (.caseWhen branches otherwise))
    (cast : ∀ e type, motive e → motive (.cast e type))
    (window : ∀ fn partition order frame, motive fn → (∀ e ∈ partition, motive e) →
      (∀ e ∈ order, motive e) → motive (.window fn partition order frame))
    (withinGroup : ∀ fn order, motive fn → (∀ e ∈ order, motive e) →
      motive (.withinGroup fn order))
    (desc : ∀ e, motive e → motive (.desc e))
    (raw : ∀ text, motive (.raw text))
    (e : Expr) : motive e := by
  refine @Expr.rec motive (fun items ↦ ∀ e ∈ items, motive e)
    (fun branches ↦ ∀ b ∈ branches, motive b.1 ∧ motive b.2)
    (fun otherwise ↦ ∀ e ∈ otherwise, motive e) (fun b ↦ motive b.1 ∧ motive b.2)
    literal identifier star list function binary unary isNull between elemOf caseWhen cast window
    withinGroup desc raw ?_ ?_ ?_ ?_ ?_ ?_ ?_ e
  · simp
  · intro head tail hhead htail
    simpa using ⟨hhead, htail⟩
  · simp
  · intro head tail hhead htail b hb
    rcases List.mem_cons.1 hb with rfl | hb
    · exact hhead
    · exact htail b hb
  · simp
  · intro e he
    simpa using he
  · intro fst snd hfst hsnd
    exact ⟨hfst, hsnd⟩

/-- The trees right below a node. -/
def children : Expr → List Expr
  | .literal _ | .identifier .. | .star | .raw _ => []
  | .list items => items
  | .function _ args _ => args
  | .binary l _ r => [l, r]
  | .unary _ e | .isNull e | .cast e _ | .desc e => [e]
  | .between e low high => [e, low, high]
  | .elemOf e items => [e, items]
  | .caseWhen branches otherwise => branches.flatMap (fun b ↦ [b.1, b.2]) ++ otherwise.toList
  | .window fn partition order _ => fn :: (partition ++ order)
  | .withinGroup fn order => fn :: order

-- The cases of these functions, as equations for `grind`. They are made here once, so that the
-- proofs below share them.
attribute [grind =] children inline isWindowed columnReferences

theorem children_caseWhen {branches : List (Expr × Expr)} {otherwise : Option Expr}
    {p : Expr → Prop} (hb : ∀ b ∈ branches, p b.1 ∧ p b.2) (ho : ∀ e ∈ otherwise, p e) :
    ∀ c ∈ children (.caseWhen branches otherwise), p c := by
  intro c hc
  simp only [children, List.mem_append, List.mem_flatMap, List.mem_cons, List.not_mem_nil,
    or_false, Option.mem_toList] at hc
  rcases hc with ⟨b, hmem, rfl | rfl⟩ | hc
  · exact (hb b hmem).1
  · exact (hb b hmem).2
  · exact ho c hc

theorem mem_children_branch {branches : List (Expr × Expr)} {otherwise : Option Expr}
    {b : Expr × Expr} (h : b ∈ branches) :
    b.1 ∈ children (.caseWhen branches otherwise) ∧
      b.2 ∈ children (.caseWhen branches otherwise) := by
  simp only [children, List.mem_append, List.mem_flatMap]
  exact ⟨.inl ⟨b, h, by simp⟩, .inl ⟨b, h, by simp⟩⟩

/-- Induction on trees that treats all nodes alike. -/
theorem induction_children {motive : Expr → Prop}
    (node : ∀ e, (∀ c ∈ children e, motive c) → motive e) (e : Expr) : motive e := by
  induction e using Expr.induction with
  | literal | identifier | star | raw => exact node _ (by simp [children])
  | list items ih => exact node _ ih
  | function name args distinct ih => exact node _ ih
  | binary l op r ihl ihr => exact node _ (by simp [children, ihl, ihr])
  | unary op e ih => exact node _ (by simp [children, ih])
  | isNull e ih => exact node _ (by simp [children, ih])
  | between e low high ihe ihl ihh => exact node _ (by simp [children, ihe, ihl, ihh])
  | elemOf e items ihe ihi => exact node _ (by simp [children, ihe, ihi])
  | caseWhen branches otherwise ihb iho => exact node _ (children_caseWhen ihb iho)
  | cast e type ih => exact node _ (by simp [children, ih])
  | window fn partition order frame ihf ihp iho =>
    refine node _ (fun c hc ↦ ?_)
    rcases List.mem_cons.1 hc with rfl | hc
    · exact ihf
    · exact (List.mem_append.1 hc).elim (ihp c) (iho c)
  | withinGroup fn order ihf iho =>
    refine node _ (fun c hc ↦ ?_)
    rcases List.mem_cons.1 hc with rfl | hc
    · exact ihf
    · exact iho c hc
  | desc e ih => exact node _ (by simp [children, ih])

/-- Induction on trees that treats all nodes alike but the columns. -/
theorem induction_columns {motive : Expr → Prop}
    (column : ∀ name, motive (.identifier none name))
    (node : ∀ e, (∀ name, e ≠ .identifier none name) → (∀ c ∈ children e, motive c) → motive e)
    (e : Expr) : motive e := by
  induction e using induction_children with
  | node e ih =>
    by_cases hcolumn : ∃ name, e = .identifier none name
    · obtain ⟨name, rfl⟩ := hcolumn
      exact column name
    · exact node e (not_exists.1 hcolumn) ih

/-! ## Other trees below a node -/

/-- The node with other trees in the places of those right below it. -/
def mapChildren (f : Expr → Expr) : Expr → Expr
  | .literal value => .literal value
  | .identifier qualifier name => .identifier qualifier name
  | .star => .star
  | .raw text => .raw text
  | .list items => .list (items.map f)
  | .function name args distinct => .function name (args.map f) distinct
  | .binary l op r => .binary (f l) op (f r)
  | .unary op e => .unary op (f e)
  | .isNull e => .isNull (f e)
  | .between e low high => .between (f e) (f low) (f high)
  | .elemOf e items => .elemOf (f e) (f items)
  | .caseWhen branches otherwise =>
    .caseWhen (branches.map fun b ↦ (f b.1, f b.2)) (otherwise.map f)
  | .cast e type => .cast (f e) type
  | .window fn partition order frame => .window (f fn) (partition.map f) (order.map f) frame
  | .withinGroup fn order => .withinGroup (f fn) (order.map f)
  | .desc e => .desc (f e)

attribute [grind =] mapChildren

theorem children_mapChildren (f : Expr → Expr) (e : Expr) :
    (e.mapChildren f).children = e.children.map f := by
  cases e with
  | caseWhen branches otherwise =>
    cases otherwise <;> simp [mapChildren, children, List.flatMap_map, List.map_flatMap]
  | _ => simp [mapChildren, children]

theorem mapChildren_congr {f g : Expr → Expr} {e : Expr} (h : ∀ c ∈ e.children, f c = g c) :
    e.mapChildren f = e.mapChildren g := by
  cases e with
  | caseWhen branches otherwise =>
    have hbranches (b : Expr × Expr) (hb : b ∈ branches) : (f b.1, f b.2) = (g b.1, g b.2) :=
      Prod.ext (h b.1 (mem_children_branch hb).1) (h b.2 (mem_children_branch hb).2)
    have hotherwise : otherwise.map f = otherwise.map g :=
      Option.map_congr fun e he ↦ h e (by simp [children, Option.mem_def.1 he])
    rw [mapChildren, mapChildren, List.map_congr_left hbranches, hotherwise]
  | _ => simp_all [mapChildren, children]

@[simp]
theorem mapChildren_id (e : Expr) : e.mapChildren id = e := by
  cases e <;> simp [mapChildren]

@[simp]
theorem mapChildren_mapChildren (f g : Expr → Expr) (e : Expr) :
    (e.mapChildren f).mapChildren g = e.mapChildren (g ∘ f) := by
  cases e <;> simp [mapChildren, Function.comp_def]

theorem mapChildren_eq_self {f : Expr → Expr} {e : Expr} (h : ∀ c ∈ e.children, f c = c) :
    e.mapChildren f = e := (mapChildren_congr h).trans (mapChildren_id e)

/-! ## Rendering through lists -/

theorem renderAll_eq_map (d : Dialect) (items : List Expr) :
    renderAll d items = items.map (render d) := by
  induction items with
  | nil => rfl
  | cons e rest ih => rw [renderAll, ih, List.map_cons]

/-! ## All subtrees -/

mutual

/-- The tree and all trees below it. -/
def parts : Expr → List Expr
  | .literal value => [.literal value]
  | .identifier qualifier name => [.identifier qualifier name]
  | .star => [.star]
  | .raw text => [.raw text]
  | .list items => .list items :: partsAll items
  | .function name args distinct => .function name args distinct :: partsAll args
  | .binary l op r => .binary l op r :: (parts l ++ parts r)
  | .unary op e => .unary op e :: parts e
  | .isNull e => .isNull e :: parts e
  | .between e low high => .between e low high :: (parts e ++ parts low ++ parts high)
  | .elemOf e items => .elemOf e items :: (parts e ++ parts items)
  | .caseWhen branches otherwise =>
    .caseWhen branches otherwise :: (partsBranches branches ++ partsOption otherwise)
  | .cast e type => .cast e type :: parts e
  | .window fn partition order frame =>
    .window fn partition order frame :: (parts fn ++ partsAll partition ++ partsAll order)
  | .withinGroup fn order => .withinGroup fn order :: (parts fn ++ partsAll order)
  | .desc e => .desc e :: parts e

def partsAll : List Expr → List Expr
  | [] => []
  | e :: rest => parts e ++ partsAll rest

def partsBranches : List (Expr × Expr) → List Expr
  | [] => []
  | (cond, value) :: rest => parts cond ++ parts value ++ partsBranches rest

def partsOption : Option Expr → List Expr
  | none => []
  | some e => parts e

end

attribute [grind =] parts

theorem partsAll_eq_flatMap (items : List Expr) : partsAll items = items.flatMap parts := by
  induction items with
  | nil => rfl
  | cons e rest ih => rw [partsAll, ih, List.flatMap_cons]

theorem partsBranches_eq_flatMap (branches : List (Expr × Expr)) :
    partsBranches branches = branches.flatMap (fun b ↦ parts b.1 ++ parts b.2) := by
  induction branches with
  | nil => rfl
  | cons b rest ih => rw [partsBranches, ih, List.flatMap_cons]

theorem partsOption_eq_flatMap (otherwise : Option Expr) :
    partsOption otherwise = otherwise.toList.flatMap parts := by
  cases otherwise with
  | none => rfl
  | some e => simp [partsOption]

theorem parts_eq (e : Expr) : parts e = e :: (children e).flatMap parts := by
  cases e <;> simp [parts, children, partsAll_eq_flatMap, partsBranches_eq_flatMap,
    partsOption_eq_flatMap, List.flatMap_assoc]

theorem mem_parts_self (e : Expr) : e ∈ parts e := by simp [parts_eq e]

theorem mem_parts_of_child {e c s : Expr} (hc : c ∈ children e) (hs : s ∈ parts c) :
    s ∈ parts e := by
  rw [parts_eq e]
  exact List.mem_cons_of_mem _ (List.mem_flatMap.2 ⟨c, hc, hs⟩)

/-! ## Rebuilding -/

mutual

/-- The tree put together again from its leaves up. `leaf` may replace a leaf, and `join` gets a
binary node as its rebuilt left side, its operator, its right side as it was, and that rebuilt. -/
def rebuild (leaf : Expr → Expr) (join : Expr → BinaryOp → Expr → Expr → Expr) : Expr → Expr
  | .literal value => leaf (.literal value)
  | .identifier qualifier name => leaf (.identifier qualifier name)
  | .star => leaf .star
  | .raw text => leaf (.raw text)
  | .list items => .list (rebuildAll leaf join items)
  | .function name args distinct => .function name (rebuildAll leaf join args) distinct
  | .binary l op r => join (rebuild leaf join l) op r (rebuild leaf join r)
  | .unary op e => .unary op (rebuild leaf join e)
  | .isNull e => .isNull (rebuild leaf join e)
  | .between e low high =>
    .between (rebuild leaf join e) (rebuild leaf join low) (rebuild leaf join high)
  | .elemOf e items => .elemOf (rebuild leaf join e) (rebuild leaf join items)
  | .caseWhen branches otherwise =>
    .caseWhen (rebuildBranches leaf join branches) (rebuildOption leaf join otherwise)
  | .cast e type => .cast (rebuild leaf join e) type
  | .window fn partition order frame =>
    .window (rebuild leaf join fn) (rebuildAll leaf join partition) (rebuildAll leaf join order)
      frame
  | .withinGroup fn order => .withinGroup (rebuild leaf join fn) (rebuildAll leaf join order)
  | .desc e => .desc (rebuild leaf join e)

def rebuildAll (leaf : Expr → Expr) (join : Expr → BinaryOp → Expr → Expr → Expr) :
    List Expr → List Expr
  | [] => []
  | e :: rest => rebuild leaf join e :: rebuildAll leaf join rest

def rebuildBranches (leaf : Expr → Expr) (join : Expr → BinaryOp → Expr → Expr → Expr) :
    List (Expr × Expr) → List (Expr × Expr)
  | [] => []
  | (cond, value) :: rest =>
    (rebuild leaf join cond, rebuild leaf join value) :: rebuildBranches leaf join rest

def rebuildOption (leaf : Expr → Expr) (join : Expr → BinaryOp → Expr → Expr → Expr) :
    Option Expr → Option Expr
  | none => none
  | some e => some (rebuild leaf join e)

end

attribute [grind =] rebuild

section Rebuild

variable (leaf : Expr → Expr) (join : Expr → BinaryOp → Expr → Expr → Expr)

theorem rebuildAll_eq_map (items : List Expr) :
    rebuildAll leaf join items = items.map (rebuild leaf join) := by
  induction items with
  | nil => rfl
  | cons e rest ih => rw [rebuildAll, ih, List.map_cons]

theorem rebuildBranches_eq_map (branches : List (Expr × Expr)) :
    rebuildBranches leaf join branches =
      branches.map (fun b ↦ (rebuild leaf join b.1, rebuild leaf join b.2)) := by
  induction branches with
  | nil => rfl
  | cons b rest ih => rw [rebuildBranches, ih, List.map_cons]

theorem rebuildOption_eq_map (otherwise : Option Expr) :
    rebuildOption leaf join otherwise = otherwise.map (rebuild leaf join) := by
  cases otherwise <;> rfl

end Rebuild

/-- Is the tree of a form that has no trees below it? -/
def isLeaf : Expr → Bool
  | .literal _ | .identifier .. | .star | .raw _ => true
  | _ => false

theorem children_rebuild (leaf : Expr → Expr) (join : Expr → BinaryOp → Expr → Expr → Expr)
    {e : Expr} (hbinary : ∀ l op r, e ≠ .binary l op r) (hleaf : e.isLeaf = false) :
    (rebuild leaf join e).children = e.children.map (rebuild leaf join) := by
  cases e with
  | literal | identifier | star | raw => cases hleaf
  | binary l op r => exact absurd rfl (hbinary l op r)
  | caseWhen branches otherwise =>
    cases otherwise <;>
      simp [rebuild, children, rebuildBranches_eq_map, rebuildOption_eq_map, List.map_flatMap,
        List.flatMap_map]
  | _ => simp [rebuild, children, rebuildAll_eq_map]

theorem rebuild_of_isLeaf {leaf : Expr → Expr} {join : Expr → BinaryOp → Expr → Expr → Expr}
    {e : Expr} (h : e.isLeaf = true) : rebuild leaf join e = leaf e := by
  cases e <;> first | rfl | cases h

theorem children_of_isLeaf {e : Expr} (h : e.isLeaf = true) : e.children = [] := by
  cases e <;> first | rfl | cases h

theorem rebuild_ne_binary {leaf : Expr → Expr} {join : Expr → BinaryOp → Expr → Expr → Expr}
    {e : Expr} (hbinary : ∀ l op r, e ≠ .binary l op r) (hleaf : e.isLeaf = false) (l : Expr)
    (op : BinaryOp) (r : Expr) : rebuild leaf join e ≠ .binary l op r := by
  cases e with
  | binary l op r => exact absurd rfl (hbinary l op r)
  | literal | identifier | star | raw => cases hleaf
  | _ => nofun

/-! ## Weights -/

/-- The sum of the loads of all nodes. -/
def weight (load : Expr → Nat) (e : Expr) : Nat := (e.parts.map load).sum

theorem weight_eq (load : Expr → Nat) (e : Expr) :
    weight load e = load e + (e.children.map (weight load)).sum := by
  have hflat (es : List Expr) :
      ((es.flatMap parts).map load).sum = (es.map (weight load)).sum := by
    induction es with
    | nil => rfl
    | cons e es ih => simp [weight, ih]
  rw [weight, parts_eq, List.map_cons, List.sum_cons, hflat]

theorem weight_binary (load : Expr → Nat) (l : Expr) (op : BinaryOp) (r : Expr) :
    weight load (.binary l op r) = load (.binary l op r) + (weight load l + weight load r) := by
  simp [weight_eq load (.binary l op r), children]

/-- A rebuilding adds up what it adds at the binary nodes. -/
theorem weight_rebuild {leaf : Expr → Expr} {join : Expr → BinaryOp → Expr → Expr → Expr}
    {load gain : Expr → Nat} {c : Nat}
    (hload : ∀ e, (∀ l op r, e ≠ .binary l op r) → load e = c)
    (hgain : ∀ e, (∀ l op r, e ≠ .binary l op r) → gain e = 0)
    (hleaf : ∀ e, e.isLeaf = true → weight load (leaf e) = c)
    (hjoin : ∀ l op r, weight load (rebuild leaf join (.binary l op r)) =
      load (.binary l op r) + gain (.binary l op r) +
        (weight load (rebuild leaf join l) + weight load (rebuild leaf join r))) (e : Expr) :
    weight load (rebuild leaf join e) = weight load e + weight gain e := by
  induction e using Expr.induction_children with
  | node e ih =>
  by_cases hbinary : ∃ l op r, e = .binary l op r
  · obtain ⟨l, op, r, rfl⟩ := hbinary
    have hl := ih l (by simp [children])
    have hr := ih r (by simp [children])
    rw [hjoin, hl, hr, weight_binary, weight_binary]
    omega
  have hne : ∀ l op r, e ≠ .binary l op r := fun l op r heq ↦ hbinary ⟨l, op, r, heq⟩
  cases hkind : e.isLeaf with
  | true =>
    rw [rebuild_of_isLeaf hkind, hleaf e hkind, weight_eq load, weight_eq gain, hload e hne,
      hgain e hne, children_of_isLeaf hkind]
    rfl
  | false =>
    have hsum : ∀ es ⊆ e.children, (es.map (fun c ↦ weight load (rebuild leaf join c))).sum =
        (es.map (weight load)).sum + (es.map (weight gain)).sum := by
      intro es hes
      induction es with
      | nil => rfl
      | cons x es ihes =>
        have hx := ih x (hes List.mem_cons_self)
        have hrest := ihes (fun y hy ↦ hes (List.mem_cons_of_mem x hy))
        simp only [List.map_cons, List.sum_cons, hx, hrest]
        omega
    have hchildren := children_rebuild leaf join hne hkind
    rw [weight_eq, hload _ (rebuild_ne_binary hne hkind), hchildren, List.map_map, weight_eq load e,
      weight_eq gain e, hload e hne, hgain e hne, Nat.zero_add, Nat.add_assoc]
    exact congrArg (c + ·) (hsum e.children (fun _ h ↦ h))

section RebuildTwice

variable {leaf leaf' : Expr → Expr} {join join' : Expr → BinaryOp → Expr → Expr → Expr}

theorem rebuildAll_rebuildAll (items : List Expr)
    (h : ∀ e ∈ items, rebuild leaf join (rebuild leaf' join' e) = rebuild leaf join e) :
    rebuildAll leaf join (rebuildAll leaf' join' items) = rebuildAll leaf join items := by
  simp only [rebuildAll_eq_map, List.map_map]
  exact List.map_congr_left h

/-- Rebuilding twice goes through every node but the binary ones. -/
theorem rebuild_rebuild_of_children {e : Expr} (hbinary : ∀ l op r, e ≠ .binary l op r)
    (hleaf : ∀ {e}, e.isLeaf = true → rebuild leaf join (leaf' e) = leaf e)
    (h : ∀ c ∈ e.children, rebuild leaf join (rebuild leaf' join' c) = rebuild leaf join c) :
    rebuild leaf join (rebuild leaf' join' e) = rebuild leaf join e := by
  cases e with
  | literal | identifier | star | raw => exact hleaf rfl
  | binary l op r => exact absurd rfl (hbinary l op r)
  | list items => simp only [rebuild, rebuildAll_rebuildAll items h]
  | function name args distinct => simp only [rebuild, rebuildAll_rebuildAll args h]
  | unary | isNull | cast | desc => simp_all [rebuild, children]
  | between | elemOf => simp_all [rebuild, children]
  | caseWhen branches otherwise =>
    have hbranch (b : Expr × Expr) (hb : b ∈ branches) :
        rebuild leaf join (rebuild leaf' join' b.1) = rebuild leaf join b.1 ∧
          rebuild leaf join (rebuild leaf' join' b.2) = rebuild leaf join b.2 := by
      constructor <;> exact h _ (List.mem_append_left _ (List.mem_flatMap.2 ⟨b, hb, by simp⟩))
    simp only [rebuild, rebuildBranches_eq_map, rebuildOption_eq_map, List.map_map, Option.map_map]
    congr 1
    · exact List.map_congr_left (fun b hb ↦ Prod.ext (hbranch b hb).1 (hbranch b hb).2)
    · cases otherwise with
      | none => rfl
      | some e => simpa using h e (by simp [children])
  | window fn partition order frame =>
    have hp := rebuildAll_rebuildAll partition (fun e he ↦ h e (by simp [children, he]))
    have ho := rebuildAll_rebuildAll order (fun e he ↦ h e (by simp [children, he]))
    simp only [rebuild, hp, ho, h fn (by simp [children])]
  | withinGroup fn order =>
    have ho := rebuildAll_rebuildAll order (fun e he ↦ h e (by simp [children, he]))
    simp only [rebuild, ho, h fn (by simp [children])]

end RebuildTwice

end SqlVerbs.Sql.Expr
