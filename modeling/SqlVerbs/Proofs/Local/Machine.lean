import SqlVerbs.Local.Fold
import SqlVerbs.Proofs.Double.Order
import SqlVerbs.Proofs.Local.Names

/-!
# Evaluation on a machine

The local functions once more, with the operations that a machine can refuse: an index has to be
inside its slice, a divisor must not be zero, natural numbers do not go below zero, and integers
have 64 bits. Each of them panics outside its domain. Nothing that the functions do is outside.

A cast from a double to an integer is clamped and never panics.
-/

namespace SqlVerbs.Local

open Calendar (Date)

/-- Why a machine stops in the middle of a computation. -/
inductive Panic where
  | indexOutOfBounds
  | zeroDivisor
  /-- A natural number below zero. -/
  | underflow
  /-- An integer that does not fit in 64 bits. -/
  | overflow
deriving DecidableEq, Repr

/-- A computation on a machine. It has a result or fails, unless it panics. -/
abbrev Machine (ε α : Type) : Type := ExceptT ε (Except Panic) α

namespace Machine

variable {ε α β : Type}

def panic (reason : Panic) : Machine ε α := ExceptT.mk (.error reason)

/-- A computation that does not panic. -/
def total (x : Except ε α) : Machine ε α := ExceptT.mk (.ok x)

/-- Runs a computation up to its result or failure. Panics are not caught. -/
def attempt {δ : Type} (x : Machine ε α) : Machine δ (Except ε α) := ExceptT.lift x.run

theorem pure_eq_total (a : α) : (pure a : Machine ε α) = total (pure a) := rfl

theorem total_bind (x : Except ε α) (f : α → Except ε β) :
    (total x >>= fun a ↦ total (f a)) = total (x >>= f) := by
  cases x <;> rfl

theorem bind_total {x : Machine ε α} {x' : Except ε α} {f : α → Machine ε β} {f' : α → Except ε β}
    (hx : x = total x') (hf : ∀ a, f a = total (f' a)) : (x >>= f) = total (x' >>= f') := by
  rw [hx, ← total_bind, funext hf]

theorem total_pure_bind (a : α) (f : α → Machine ε β) : (total (pure a) >>= f) = f a := rfl

theorem total_ite (p : Prop) [Decidable p] (x y : Except ε α) :
    (if p then total x else total y) = total (if p then x else y) := (apply_ite total p x y).symm

theorem mapM_total {f : α → Machine ε β} {g : α → Except ε β} {items : List α}
    (h : ∀ a ∈ items, f a = total (g a)) : items.mapM f = total (items.mapM g) := by
  induction items with
  | nil => rfl
  | cons a rest ih =>
    rw [List.forall_mem_cons] at h
    simp only [List.mapM_cons, h.1, ih h.2, pure_eq_total, total_bind]

theorem mapM_filterMap {f : α → Machine ε β} {g : α → Option β} {items : List α}
    (h : ∀ a ∈ items, ∃ b, g a = some b ∧ f a = total (pure b)) :
    items.mapM f = total (pure (items.filterMap g)) := by
  induction items with
  | nil => rfl
  | cons a rest ih =>
    rw [List.forall_mem_cons] at h
    obtain ⟨⟨b, hsome, hvalue⟩, hrest⟩ := h
    rw [List.mapM_cons, hvalue, ih hrest, List.filterMap_cons_some hsome]
    rfl

theorem mapM_map {f : α → Machine ε β} {g : α → β} {items : List α}
    (h : ∀ a ∈ items, f a = total (pure (g a))) : items.mapM f = total (pure (items.map g)) := by
  rw [← List.filterMap_eq_map]
  exact mapM_filterMap fun a ha ↦ ⟨g a, rfl, h a ha⟩

/-! ## Partial operations -/

/-- The item of a slice at an index. -/
def item (items : List α) (index : Nat) : Machine ε α :=
  match items[index]? with
  | some a => pure a
  | none => panic .indexOutOfBounds

/-- The remainder of natural numbers. -/
def remainder (a b : Nat) : Machine ε Nat := if b = 0 then panic .zeroDivisor else pure (a % b)

/-- The difference of natural numbers. -/
def minus (a b : Nat) : Machine ε Nat := if a < b then panic .underflow else pure (a - b)

/-- A number as a 64-bit integer. -/
def word (n : Int) : Machine ε Int64 :=
  if Int64.minValue.toInt ≤ n ∧ n ≤ Int64.maxValue.toInt then pure (Int64.ofInt n)
  else panic .overflow

/-- The quotient or the remainder of 64-bit integers. -/
def divide (f : Int64 → Int64 → Int64) (x y : Int64) : Machine ε Int64 :=
  if y = 0 then panic .zeroDivisor
  else if x = Int64.minValue ∧ y = -1 then panic .overflow
  else pure (f x y)

theorem item_total {items : List α} {index : Nat} (h : index < items.length) :
    (item items index : Machine ε α) = total (pure items[index]) := by
  rw [item, List.getElem?_eq_getElem h]
  rfl

theorem minus_total {a b : Nat} (h : b ≤ a) :
    (minus a b : Machine ε Nat) = total (pure (a - b)) := if_neg (Nat.not_lt.2 h)

theorem word_total {n : Int} (h : Int64.minValue.toInt ≤ n ∧ n ≤ Int64.maxValue.toInt) :
    (word n : Machine ε Int64) = total (pure (Int64.ofInt n)) := if_pos h

theorem divide_total (f : Int64 → Int64 → Int64) {x y : Int64} (h : quotientFails x y = false) :
    (divide f x y : Machine ε Int64) = total (pure (f x y)) := by
  simp only [quotientFails, Bool.or_eq_false_iff, Bool.and_eq_false_iff, decide_eq_false_iff_not]
    at h
  rw [divide, if_neg h.1, if_neg (by tauto), pure_eq_total]

/-- The item of a slice at an index that is counted around the end. -/
def cyclicItem (items : List α) (index : Nat) : Machine ε α := do
  item items (← remainder index items.length)

theorem cyclicItem_total {items : List α} (h : items ≠ []) (index : Nat) :
    ∃ a, cyclic items.toArray index = some a ∧
      (cyclicItem items index : Machine ε α) = total (pure a) := by
  have hpos : 0 < items.length := List.length_pos_iff.2 h
  have hlt : index % items.length < items.length := Nat.mod_lt _ hpos
  refine ⟨items[index % items.length], by simp [cyclic, hlt], ?_⟩
  rw [cyclicItem, remainder, if_neg hpos.ne', pure_bind, item_total hlt]

/-! ## Arithmetic -/

/-- Pairs up the elements of two lists and repeats the shorter one. -/
def recycle (a : List α) (b : List β) : Machine ε (List (α × β)) :=
  let n := if a.isEmpty || b.isEmpty then 0 else max a.length b.length
  (List.range n).mapM fun i ↦ do return (← cyclicItem a i, ← cyclicItem b i)

theorem recycle_total (a : List α) (b : List β) :
    (recycle a b : Machine ε _) = total (pure (Local.recycle a b)) := by
  unfold recycle Local.recycle
  refine mapM_filterMap fun i hi ↦ ?_
  cases hempty : a.isEmpty || b.isEmpty with
  | true => simp [hempty] at hi
  | false =>
    rw [Bool.or_eq_false_iff, List.isEmpty_eq_false_iff, List.isEmpty_eq_false_iff] at hempty
    obtain ⟨x, hx, hleft⟩ := cyclicItem_total (ε := ε) hempty.1 i
    obtain ⟨y, hy, hright⟩ := cyclicItem_total (ε := ε) hempty.2 i
    exact ⟨(x, y), by rw [hx, hy]; rfl, by rw [hleft, hright]; rfl⟩

/-- The remainder with the sign of the divisor. -/
def integerMod (x y : Int64) : Machine ε (Option Int64) :=
  if quotientFails x y then pure none
  else do
    let r ← divide (· % ·) x y
    if r ≠ 0 && decide (r < 0) != decide (y < 0) then return some (← word (r.toInt + y.toInt))
    else return some r

theorem integerMod_total (x y : Int64) :
    (integerMod x y : Machine ε _) = total (pure (Local.integerMod x y)) := by
  unfold integerMod Local.integerMod
  cases hfails : quotientFails x y with
  | true => rfl
  | false =>
    simp only [Bool.false_eq_true, if_false, divide_total _ hfails, total_pure_bind]
    split
    · rename_i hsigns
      -- The signs differ, so the sum is between the remainder and the divisor.
      have hword : Int64.minValue.toInt ≤ (x % y).toInt + y.toInt ∧
          (x % y).toInt + y.toInt ≤ Int64.maxValue.toInt := by
        simp only [Bool.and_eq_true, bne_iff_ne, ne_eq, decide_eq_decide,
          Int64.lt_iff_toInt_lt, Int64.toInt_zero] at hsigns
        have := Int64.minValue_le_toInt y
        have := Int64.toInt_le y
        have := Int64.minValue_le_toInt (x % y)
        have := Int64.toInt_le (x % y)
        omega
      rw [word_total hword, total_pure_bind, Int64.ofInt_add, Int64.ofInt_toInt, Int64.ofInt_toInt,
        pure_eq_total]
    · rfl

/-- The quotient rounded down. -/
def integerFloorDiv (x y : Int64) : Machine ε (Option Int64) :=
  if quotientFails x y then pure none
  else do
    let q ← divide (· / ·) x y
    let r ← divide (· % ·) x y
    if r ≠ 0 && decide (x < 0) != decide (y < 0) then return some (← word (q.toInt - 1))
    else return some q

/-- A quotient that is rounded has a divisor other than one and minus one, so it is far from the
least integer. -/
theorem minValue_lt_quotient {x y : Int64} (hy : y ≠ 0) (h : x % y ≠ 0) :
    Int64.minValue.toInt < (x / y).toInt := by
  have hrem : x.toInt.tmod y.toInt ≠ 0 := by
    rw [← Int64.toInt_mod]
    exact fun hzero ↦ h (Int64.toInt_inj.1 hzero)
  have hdivisor : 2 ≤ y.toInt.natAbs := by
    by_contra hsmall
    obtain hzero | hone : y.toInt = 0 ∨ y.toInt.natAbs = 1 := by omega
    · exact hy (Int64.toInt_inj.1 hzero)
    · exact hrem (Int.tmod_eq_zero_of_dvd (Int.natAbs_dvd.1 (by rw [hone]; exact one_dvd _)))
  have hquotient : (x / y).toInt = x.toInt.tdiv y.toInt :=
    Int64.toInt_div_of_ne_right x y fun hy ↦ by subst hy; exact absurd hdivisor (by decide)
  have hsize : (x / y).toInt.natAbs ≤ x.toInt.natAbs / 2 := by
    rw [hquotient, Int.natAbs_tdiv]
    exact Nat.div_le_div_left hdivisor two_pos
  have := Int64.minValue_le_toInt x
  have := Int64.toInt_le x
  have hmin : Int64.minValue.toInt = -0x8000000000000000 := rfl
  have hmax : Int64.maxValue.toInt = 0x7fffffffffffffff := rfl
  omega

theorem integerFloorDiv_total (x y : Int64) :
    (integerFloorDiv x y : Machine ε _) = total (pure (Local.integerFloorDiv x y)) := by
  unfold integerFloorDiv Local.integerFloorDiv
  cases hfails : quotientFails x y with
  | true => rfl
  | false =>
    simp only [Bool.false_eq_true, if_false, divide_total _ hfails, total_pure_bind]
    split
    · rename_i hsigns
      rw [Bool.and_eq_true, decide_eq_true_iff] at hsigns
      have hword : Int64.minValue.toInt ≤ (x / y).toInt - 1 ∧
          (x / y).toInt - 1 ≤ Int64.maxValue.toInt := by
        have := minValue_lt_quotient (by rintro rfl; simp [quotientFails] at hfails) hsigns.1
        have := Int64.toInt_le (x / y)
        omega
      rw [word_total hword, total_pure_bind, fit, if_pos hword, pure_eq_total]
    · rfl

/-- An operation on integers. Sums, differences and products are checked. -/
def integerOp (op : ArithOp) (x y : Option Int64) : Machine ε (Option Int64) :=
  match op, x, y with
  | .mod, some x, some y => integerMod x y
  | .floorDiv, some x, some y => integerFloorDiv x y
  | _, _, _ => pure (Local.integerOp op x y)

theorem integerOp_total (op : ArithOp) (x y : Option Int64) :
    (integerOp op x y : Machine ε _) = total (pure (Local.integerOp op x y)) := by
  unfold integerOp
  split
  · exact integerMod_total _ _
  · exact integerFloorDiv_total _ _
  · rfl

/-- A binary operation on two elements. -/
def arithItem (op : ArithOp) (onIntegers : Bool) (x y : Literal) : Machine ε Literal := do
  if onIntegers then return .integer (← integerOp op (toInt? x) (toInt? y))
  else return .double (doubleOp op x.toDouble? y.toDouble?)

theorem arithItem_total (op : ArithOp) (onIntegers : Bool) (x y : Literal) :
    (arithItem op onIntegers x y : Machine ε _) = total (pure
      (if onIntegers then .integer (Local.integerOp op (toInt? x) (toInt? y))
      else .double (doubleOp op x.toDouble? y.toDouble?))) := by
  rw [arithItem, integerOp_total]
  cases onIntegers <;> rfl

/-- A binary operation on two values. -/
def arith (op : ArithOp) (l r : Value) : Machine Reason Value := do
  let a ← total (numeric l "binary operator")
  let b ← total (numeric r "binary operator")
  let onIntegers := op.keepsIntegers && integerLike a && integerLike b
  return .atomic (← (← recycle a b).mapM fun (x, y) ↦ arithItem op onIntegers x y)

theorem arith_total (op : ArithOp) (l r : Value) : arith op l r = total (Local.arith op l r) := by
  unfold arith Local.arith
  simp only [recycle_total, mapM_map fun _ _ ↦ arithItem_total .., pure_eq_total, total_bind,
    pure_bind]

/-- The opposite of an integer. The least one has none and is refused first. -/
def opposite (i : Int64) : Machine ε (Option Int64) :=
  if i = Int64.minValue then pure none else do return some (← word (-i.toInt))

theorem opposite_total (i : Int64) :
    (opposite i : Machine ε _) = total (pure (fit (-i.toInt))) := by
  unfold opposite
  split
  · rename_i hleast
    rw [hleast]
    rfl
  · rename_i hother
    have hword : Int64.minValue.toInt ≤ -i.toInt ∧ -i.toInt ≤ Int64.maxValue.toInt := by
      have hne : i.toInt ≠ Int64.minValue.toInt := fun h ↦ hother (Int64.toInt_inj.1 h)
      have := Int64.minValue_le_toInt i
      have := Int64.toInt_le i
      have hmin : Int64.minValue.toInt = -0x8000000000000000 := rfl
      have hmax : Int64.maxValue.toInt = 0x7fffffffffffffff := rfl
      omega
    rw [word_total hword, fit, if_pos hword]
    rfl

/-- The number with the opposite sign. -/
def negateLiteral (l : Literal) : Machine ε Literal :=
  match l, toInt? l with
  | .integer _, some i | .logical _, some i => do return .integer (← opposite i)
  | _, _ => pure (Local.negateLiteral l)

theorem negateLiteral_total (l : Literal) :
    (negateLiteral l : Machine ε _) = total (pure (Local.negateLiteral l)) := by
  unfold negateLiteral
  split
  · rename_i i hi
    rw [opposite_total]
    cases hi
    rfl
  · rename_i i hi
    rw [opposite_total, Local.negateLiteral, hi]
    rfl
  · rfl

def negate (v : Value) : Machine Reason Value := do
  return .atomic (← (← total (numeric v "unary operator")).mapM negateLiteral)

theorem negate_total (v : Value) : negate v = total (Local.negate v) := by
  unfold negate Local.negate
  simp only [mapM_map fun _ _ ↦ negateLiteral_total _, pure_eq_total, total_bind, pure_bind]

/-- Compares two values. -/
def compare (op : CompareOp) (l r : Value) : Machine Reason Value := do
  let a ← total l.literals
  let b ← total r.literals
  let textual := (a ++ b).any isString
  return .atomic ((← recycle a b).map fun (x, y) ↦
    .logical ((literalOrder textual x y).map op.holds))

theorem compare_total (op : CompareOp) (l r : Value) :
    compare op l r = total (Local.compare op l r) := by
  unfold compare Local.compare
  simp only [recycle_total, pure_eq_total, total_bind, pure_bind]

/-- A logical operation element by element. -/
def logic (op : Option Bool → Option Bool → Option Bool) (l r : Value) :
    Machine Reason Value := do
  let a ← total l.literals
  let b ← total r.literals
  return .atomic (← (← recycle a b).mapM fun (x, y) ↦ total do
    return .logical (op (← truth x) (← truth y)))

theorem logic_total (op : Option Bool → Option Bool → Option Bool) (l r : Value) :
    logic op l r = total (Local.logic op l r) := by
  unfold logic Local.logic
  simp only [recycle_total, mapM_total fun _ _ ↦ rfl, pure_eq_total, total_bind, pure_bind]

/-! ## Choosing -/

/-- The element at a position that is counted around the end, as one of a kind. -/
def pick (kind : Kind) (items : List Literal) (i : Nat) : Machine ε Literal := do
  return coerce kind (← cyclicItem items i)

theorem pick_total (kind : Kind) {items : List Literal} (h : items ≠ []) (i : Nat) :
    (pick kind items i : Machine ε _) =
      total (pure (coerce kind ((cyclic items.toArray i).getD (.missing kind)))) := by
  obtain ⟨l, hl, htotal⟩ := cyclicItem_total (ε := ε) h i
  rw [pick, htotal, hl]
  rfl

/-- Chooses for every element of `test` between the elements of `yes` and `no` at its position. -/
def ifElse (test yes no : Value) : Machine Reason Value := do
  let test ← total test.literals
  let yes ← total yes.literals
  let no ← total no.literals
  if yes.isEmpty || no.isEmpty then total (throw .emptyBranches)
  else
    let kind := (kindOf yes).join (kindOf no)
    return .atomic (← test.zipIdx.mapM fun (t, i) ↦ do
      match ← total (truth t) with
      | some true => pick kind yes i
      | some false => pick kind no i
      | none => return .missing kind)

theorem ifElse_total (test yes no : Value) :
    ifElse test yes no = total (Local.ifElse test yes no) := by
  unfold ifElse Local.ifElse
  refine bind_total rfl fun test ↦ bind_total rfl fun yes ↦ bind_total rfl fun no ↦ ?_
  cases hempty : yes.isEmpty || no.isEmpty with
  | true => rfl
  | false =>
    rw [Bool.or_eq_false_iff, List.isEmpty_eq_false_iff, List.isEmpty_eq_false_iff] at hempty
    refine bind_total (mapM_total fun (t, i) _ ↦ bind_total rfl fun truth ↦ ?_) fun _ ↦ rfl
    match truth with
    | some true => exact pick_total _ hempty.1 i
    | some false => exact pick_total _ hempty.2 i
    | none => rfl

/-! ## Subsetting -/

/-- The position that a subscript gives in a vector of some length, from 0. -/
def indexPosition (index : Value) (length : Nat) : Machine Reason Nat :=
  match index with
  | .atomic [l] =>
    match l.toDouble? with
    | some i =>
      if !Double.isFinite i then total (throw .subscriptNotFinite)
      else if i < 1.0 ∨ length < Double.toUnsigned i then total (throw .subscriptOutOfBounds)
      else minus (Double.toUnsigned i) 1
    | none => total (throw .subscriptNotNumber)
  | _ => total (throw .subscriptNotNumber)

theorem indexPosition_total (index : Value) (length : Nat) :
    indexPosition index length = total (Local.indexPosition index length) := by
  match index with
  | .atomic [l] =>
    cases hl : l.toDouble? with
    | none => simp only [indexPosition, Local.indexPosition, hl]; rfl
    | some i =>
      simp only [indexPosition, Local.indexPosition, hl]
      cases hfinite : Double.isFinite i with
      | false => rfl
      | true =>
        by_cases hbounds : i < 1.0 ∨ length < Double.toUnsigned i
        · simp only [if_pos hbounds]
          rfl
        · have hpos := Double.toUnsigned_pos
            (Double.one_le_of_isFinite hfinite fun h ↦ hbounds (.inl h))
          simp only [if_neg hbounds, minus_total hpos]
          rfl
  | .atomic [] | .atomic (_ :: _ :: _) | .list _ | .date _ | .dateTime _ | .null => rfl

/-- A position is inside the vector. -/
theorem indexPosition_lt {index : Value} {length position : Nat}
    (h : Local.indexPosition index length = .ok position) : position < length := by
  unfold Local.indexPosition at h
  split at h
  · split at h
    · rename_i i _
      split at h
      · cases h
      · split at h
        · cases h
        · rename_i hfinite hbounds
          cases h
          have hpos : 1 ≤ Double.toUnsigned i := Double.toUnsigned_pos
            (Double.one_le_of_isFinite (by simpa using hfinite) fun h ↦ hbounds (.inl h))
          omega
    · cases h
  · cases h

/-- The single element that a subscript selects, by name or by position. -/
def elementOf (target index : Value) : Machine Reason Value :=
  match index with
  | .atomic [.string (some key)] => total (namedElement target key)
  | _ =>
    match target with
    | .atomic items => do return .ofLiteral (← item items (← indexPosition index items.length))
    | .list entries => do
      match entries[← indexPosition index entries.length]? with
      | some (_, v) => return v
      | none => total (throw .subscriptOutOfBounds)
    | _ => total (.error .notSubsettable)

theorem elementOf_total (target index : Value) :
    elementOf target index = total (Local.elementOf target index) := by
  by_cases hkey : ∃ key, index = .atomic [.string (some key)]
  · obtain ⟨key, rfl⟩ := hkey
    rfl
  · have hother (key : String) (h : index = .atomic [.string (some key)]) : False := hkey ⟨key, h⟩
    cases target with
    | atomic items =>
      rw [elementOf, Local.elementOf, indexPosition_total]
      cases hposition : Local.indexPosition index items.length with
      | error reason => rfl
      | ok position =>
        have hlt := indexPosition_lt hposition
        change (do return Value.ofLiteral (← item items position)) = _
        simp only [item_total hlt, bind, Except.bind, List.getElem?_eq_getElem hlt]
        rfl
      all_goals exact hother
    | list entries =>
      rw [elementOf, Local.elementOf]
      refine bind_total (indexPosition_total _ _) fun position ↦ ?_
      cases entries[position]? <;> rfl
      all_goals exact hother
    | date | dateTime | null =>
      rw [elementOf, Local.elementOf]
      all_goals first | exact hother | simp

/-- The element at a subscript; beyond the end it is missing. -/
def subsetItem (items : List Literal) (index : Literal) : Machine Reason Literal :=
  match index with
  | .logical _ => total (throw .logicalSubscript)
  | _ =>
    match index.toDouble? with
    | some i =>
      if i ≥ 1.0 then do
        return items[← minus (Double.toUnsigned i) 1]?.getD (.missing (kindOf items))
      else total (throw .subscriptNotPositive)
    | none => total (throw .subscriptType)

theorem subsetItem_total (items : List Literal) (index : Literal) :
    subsetItem items index = total (Local.subsetItem items index) := by
  cases index with
  | logical _ => rfl
  | integer | double | string | null =>
    dsimp only [subsetItem, Local.subsetItem]
    cases Literal.toDouble? _ with
    | none => rfl
    | some i =>
      by_cases hpos : i ≥ 1.0
      · simp only [if_pos hpos, minus_total (Double.toUnsigned_pos hpos)]
        rfl
      · simp only [if_neg hpos]
        rfl

/-- The elements at positive subscripts. -/
def subset (target index : Value) : Machine Reason Value := do
  let items ← total target.literals
  return .atomic (← (← total index.literals).mapM (subsetItem items))

theorem subset_total (target index : Value) :
    subset target index = total (Local.subset target index) := by
  unfold subset Local.subset
  simp only [mapM_total fun _ _ ↦ subsetItem_total .., pure_eq_total, total_bind]

/-! ## Strings -/

/-- Texts side by side, where the shorter columns are repeated. -/
def pasteRows (columns : List (List String)) (separator : String) : Machine ε (List String) :=
  let columns := columns.filter (fun c ↦ !c.isEmpty)
  let count := (columns.map List.length).foldl max 0
  (List.range count).mapM fun i ↦ do
    return separator.intercalate (← columns.mapM (fun c ↦ cyclicItem c i))

theorem pasteRows_total (columns : List (List String)) (separator : String) :
    (pasteRows columns separator : Machine ε _) =
      total (pure (Local.pasteRows columns separator)) := by
  unfold pasteRows Local.pasteRows
  simp only [List.map_map, List.filterMap_map]
  refine mapM_map fun i _ ↦ ?_
  rw [mapM_filterMap fun c hc ↦ cyclicItem_total (by simpa using (List.mem_filter.1 hc).2) i]
  rfl

/-- Joins strings element by element, and then all of them if `collapse` is given. -/
def paste (args : List Value) (separator : String) (collapse : Option String) :
    Machine Reason Value := do
  let columns ← total (args.mapM fun v ↦ do
    return (← v.literals).map fun l ↦ (text l).getD "NA")
  let rows ← pasteRows columns separator
  match collapse with
  | some c => return .atomic [.string (some (c.intercalate rows))]
  | none => return .atomic (rows.map fun s ↦ .string (some s))

theorem paste_total (args : List Value) (separator : String) (collapse : Option String) :
    paste args separator collapse = total (Local.paste args separator collapse) := by
  unfold paste Local.paste
  cases collapse <;> simp only [pasteRows_total, pure_eq_total, total_bind, pure_bind]

/-- Parts of strings between two positions. -/
def substr (x start stop : Value) : Machine Reason Value := do
  let start ← total (scalarDouble start "start")
  let stop ← total (scalarDouble stop "stop")
  if start.isNaN || stop.isNaN then total (mapText (fun _ ↦ none) x)
  else
    let position (d : Float) : Int := Double.clampTo (-0x8000000000000000) 0xffffffffffffffff d
    return .atomic (← (← total x.literals).mapM fun l ↦ do
      match text l with
      | none => return .string none
      | some s =>
        let skipped ← minus (Double.toUnsigned (if start < 1.0 then 1.0 else start)) 1
        let count := (position stop - max 1 (position start) + 1).toNat
        return .string (some (String.ofList ((s.toList.drop skipped).take count))))

theorem substr_total (x start stop : Value) :
    substr x start stop = total (Local.substr x start stop) := by
  unfold substr Local.substr
  refine bind_total rfl fun start ↦ bind_total rfl fun stop ↦ ?_
  cases hnan : start.isNaN || stop.isNaN with
  | true => rfl
  | false =>
    rw [Bool.or_eq_false_iff] at hnan
    have hfirst := Double.toUnsigned_raised (by decide : (-0x8000000000000000 : Int) ≤ 0) hnan.1
    have hskipped : Double.toUnsigned (if start < 1.0 then 1.0 else start) - 1 =
        (max 1 (Double.clampTo (-0x8000000000000000) 0xffffffffffffffff start) - 1).toNat := by
      omega
    refine bind_total rfl fun items ↦ ?_
    rw [mapM_map (g := fun l ↦ Literal.string ((text l).bind fun s ↦ some (slice
      (Double.clampTo (-0x8000000000000000) 0xffffffffffffffff start)
      (Double.clampTo (-0x8000000000000000) 0xffffffffffffffff stop) s)))]
    · rfl
    · intro l _
      cases text l with
      | none => rfl
      | some s =>
        dsimp only
        rw [minus_total (by omega), hskipped, Option.bind_some, slice]
        rfl

/-! ## Dates -/

/-- The date so many days after the first day of 1970. Days that the offset would carry out of 64
bits are refused first. -/
def dateOfDays (days : Float) : Machine Reason Date :=
  if days.isNaN then total (throw .missingDate)
  else do
    let day := (Double.toInt64 (Double.floor days)).toInt
    if Int64.maxValue.toInt - epochDay < day then total (throw .dateOutOfRange)
    else
      let number := (← word (day + epochDay)).toInt
      if -2147483648 ≤ number ∧ number ≤ 2147483647 - 365 then
        match Date.ofDayNumber? number with
        | some d => return d
        | none => total (throw .dateOutOfRange)
      else total (throw .dateOutOfRange)

theorem dateOfDays_total (days : Float) : dateOfDays days = total (Local.dateOfDays days) := by
  unfold dateOfDays Local.dateOfDays
  cases days.isNaN with
  | true => rfl
  | false =>
    generalize Double.toInt64 (Double.floor days) = day
    have hlow := Int64.minValue_le_toInt day
    have hmax : Int64.maxValue.toInt = 0x7fffffffffffffff := rfl
    simp only [Bool.false_eq_true, if_false]
    split
    · rename_i hlarge
      rw [if_neg (by unfold epochDay at *; omega)]
      rfl
    · rename_i hsmall
      have hword : Int64.minValue.toInt ≤ day.toInt + epochDay ∧
          day.toInt + epochDay ≤ Int64.maxValue.toInt := by
        unfold epochDay at *
        omega
      rw [word_total hword, total_pure_bind, Int64.toInt_ofInt_of_le hword.1 (by omega)]
      split
      · cases Date.ofDayNumber? (day.toInt + epochDay) <;> rfl
      · rfl

/-- Makes a date of a value. Only numbers of days are counted. -/
def asDate (x : Value) (named : Bindings Value) : Machine Reason Value :=
  match x with
  | .atomic [.integer (some i)] => do return .date (← dateOfDays (Double.ofInt64 i))
  | .atomic [.double (some d)] => do return .date (← dateOfDays d)
  | _ => total (Local.asDate x named)

theorem asDate_total (x : Value) (named : Bindings Value) :
    asDate x named = total (Local.asDate x named) := by
  unfold asDate
  split
  · exact bind_total (dateOfDays_total _) fun _ ↦ rfl
  · exact bind_total (dateOfDays_total _) fun _ ↦ rfl
  · rfl

end Machine

end SqlVerbs.Local
