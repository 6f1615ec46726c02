import Mathlib
import SqlVerbs.Proofs.Local.NamedArguments

/-!
# Sums of integers

Integers are added from the left, and every partial sum has to fit in 64 bits. So the result is
exact where all beginnings of the list have a sum that fits, and missing otherwise, also where the
whole sum would fit. It does not matter how the integers are spread over the arguments, but their
order does, unless what is added and what is taken away fit each on its own.
-/

namespace SqlVerbs.Local

open Host (Expr)

/-! ## Exact sums -/

/-- The sum without bounds. -/
def exactSum (items : List Int64) : Int := (items.map Int64.toInt).sum

/-- What the positive integers add. -/
def added (items : List Int64) : Int := exactSum (items.filter fun i ↦ 0 < i.toInt)

/-- What the others take away, as a negative number. -/
def removed (items : List Int64) : Int := exactSum (items.filter fun i ↦ !decide (0 < i.toInt))

/-- The number is one of 64 bits. -/
def InRange (n : Int) : Prop := Int64.minValue.toInt ≤ n ∧ n ≤ Int64.maxValue.toInt

instance (n : Int) : Decidable (InRange n) := inferInstanceAs (Decidable (_ ∧ _))

/-- Every beginning of the list has a sum of 64 bits. -/
def StaysInRange (items : List Int64) : Prop :=
  ∀ before, before <+: items → InRange (exactSum before)

@[simp]
theorem exactSum_nil : exactSum [] = 0 := rfl

@[simp]
theorem exactSum_cons (i : Int64) (items : List Int64) :
    exactSum (i :: items) = i.toInt + exactSum items := by
  simp [exactSum]

theorem exactSum_perm {items items' : List Int64} (h : items'.Perm items) :
    exactSum items' = exactSum items := (h.map _).sum_eq

theorem inRange_toInt (i : Int64) : InRange i.toInt := ⟨i.minValue_le_toInt, i.toInt_le⟩

theorem toInt_ofInt_of_inRange {n : Int} (h : InRange n) : (Int64.ofInt n).toInt = n :=
  Int64.toInt_ofInt_of_le h.1 (Int.lt_add_one_of_le h.2)

theorem fit_eq_some {n : Int} {i : Int64} : fit n = some i ↔ i.toInt = n := by
  constructor
  · intro h
    rw [fit] at h
    split at h
    · rename_i hrange
      cases h
      exact toInt_ofInt_of_inRange hrange
    · cases h
  · rintro rfl
    exact (if_pos (inRange_toInt i)).trans (congrArg some i.ofInt_toInt)

theorem fit_eq_none {n : Int} : fit n = none ↔ ¬ InRange n := by
  rw [fit]
  split
  · rename_i hrange
    exact ⟨nofun, fun h ↦ absurd hrange h⟩
  · rename_i hrange
    exact ⟨fun _ ↦ hrange, fun _ ↦ rfl⟩

/-! ## Partial sums -/

/-- The sum from a start on: one step for each integer, and each has to fit. -/
theorem foldlM_fit_eq_some {start s : Int64} {items : List Int64} :
    items.foldlM (fun acc i ↦ fit (acc.toInt + i.toInt)) start = some s ↔
      (∀ before, before <+: items → InRange (start.toInt + exactSum before)) ∧
        s.toInt = start.toInt + exactSum items := by
  induction items generalizing start with
  | nil =>
    simp only [List.foldlM_nil, List.prefix_nil, forall_eq, exactSum_nil, Int.add_zero,
      Int64.toInt_inj]
    exact ⟨fun h ↦ ⟨inRange_toInt start, (Option.some.inj h).symm⟩, fun h ↦ by rw [h.2]; rfl⟩
  | cons i later ih =>
    rw [List.foldlM_cons, Option.bind_eq_bind, Option.bind_eq_some_iff]
    constructor
    · rintro ⟨next, hnext, hlater⟩
      rw [fit_eq_some] at hnext
      rw [ih, hnext] at hlater
      refine ⟨fun before hbefore ↦ ?_, by rw [hlater.2, exactSum_cons]; omega⟩
      rcases List.prefix_cons_iff.1 hbefore with rfl | ⟨inner, rfl, hinner⟩
      · simpa using inRange_toInt start
      · simpa [Int.add_assoc] using hlater.1 inner hinner
    · rintro ⟨hrange, hsum⟩
      have hfirst : InRange (start.toInt + i.toInt) := by
        simpa using hrange [i] (List.prefix_cons_iff.2 (.inr ⟨[], rfl, List.nil_prefix⟩))
      refine ⟨Int64.ofInt (start.toInt + i.toInt), ?_, ?_⟩
      · rw [fit_eq_some, toInt_ofInt_of_inRange hfirst]
      · rw [ih, toInt_ofInt_of_inRange hfirst]
        refine ⟨fun before hbefore ↦ ?_, by rw [hsum, exactSum_cons]; omega⟩
        simpa [Int.add_assoc] using hrange (i :: before) (List.cons_prefix_cons.2 ⟨rfl, hbefore⟩)

theorem integerSum_eq_some {items : List Int64} {s : Int64} :
    integerSum items = some s ↔ StaysInRange items ∧ s.toInt = exactSum items := by
  simp only [integerSum, foldlM_fit_eq_some, StaysInRange, Int64.toInt_zero, Int.zero_add]

/-- The sum is what it should be if it does not leave the range on its way to a sum in range. -/
theorem integerSum_eq_fit_iff {items : List Int64} :
    integerSum items = fit (exactSum items) ↔ (InRange (exactSum items) → StaysInRange items) := by
  cases hsum : integerSum items with
  | some s =>
    obtain ⟨hstays, hexact⟩ := integerSum_eq_some.1 hsum
    exact ⟨fun _ _ ↦ hstays, fun _ ↦ (fit_eq_some.2 hexact).symm⟩
  | none =>
    rw [eq_comm, fit_eq_none]
    refine ⟨fun hrange h ↦ absurd h hrange, fun hstays hrange ↦ ?_⟩
    have hsome := integerSum_eq_some.2 ⟨hstays hrange, toInt_ofInt_of_inRange hrange⟩
    rw [hsum] at hsome
    cases hsome

/-! ## The order of the integers -/

theorem added_cons (i : Int64) (items : List Int64) :
    added (i :: items) = max i.toInt 0 + added items := by
  by_cases hpos : 0 < i.toInt
  · rw [added, List.filter_cons_of_pos (by simpa using hpos), exactSum_cons, max_eq_left hpos.le,
      added]
  · rw [added, List.filter_cons_of_neg (by simpa using hpos), max_eq_right (not_lt.1 hpos),
      zero_add, added]

theorem removed_cons (i : Int64) (items : List Int64) :
    removed (i :: items) = min i.toInt 0 + removed items := by
  by_cases hpos : 0 < i.toInt
  · rw [removed, List.filter_cons_of_neg (by simpa using hpos), min_eq_right hpos.le, zero_add,
      removed]
  · rw [removed, List.filter_cons_of_pos (by simpa using hpos), exactSum_cons,
      min_eq_left (not_lt.1 hpos), removed]

/-- A partial sum lies between what is removed and what is added. -/
theorem exactSum_between {before items : List Int64} (h : before <+: items) :
    removed items ≤ exactSum before ∧ exactSum before ≤ added items := by
  induction items generalizing before with
  | nil =>
    rw [List.prefix_nil.1 h]
    decide
  | cons i later ih =>
    rw [added_cons, removed_cons]
    rcases List.prefix_cons_iff.1 h with rfl | ⟨inner, rfl, hinner⟩
    · have hnothing := ih (List.nil_prefix)
      rw [exactSum_nil] at hnothing ⊢
      omega
    · have hinner := ih hinner
      rw [exactSum_cons]
      omega

/-- The sum is what it should be in every order if and only if it does not fit, or what is added
and what is removed both do. -/
theorem integerSum_perm_iff {items : List Int64} :
    (∀ items', items'.Perm items → integerSum items' = fit (exactSum items)) ↔
      (InRange (exactSum items) → InRange (added items) ∧ InRange (removed items)) := by
  constructor
  · intro h hrange
    have hstays {first last : List Int64} (hperm : (first ++ last).Perm items) :
        InRange (exactSum first) := by
      have hsum := h _ hperm
      rw [← exactSum_perm hperm] at hsum hrange
      exact integerSum_eq_fit_iff.1 hsum hrange first (List.prefix_append first last)
    have hpositive := List.filter_append_perm (fun i : Int64 ↦ decide (0 < i.toInt)) items
    exact ⟨hstays hpositive, hstays (List.perm_append_comm.trans hpositive)⟩
  · intro h items' hperm
    rw [← exactSum_perm hperm, integerSum_eq_fit_iff]
    intro hrange before hbefore
    rw [exactSum_perm hperm] at hrange
    obtain ⟨hadded, hremoved⟩ := h hrange
    have hbetween := exactSum_between hbefore
    rw [added, removed, exactSum_perm (hperm.filter _), exactSum_perm (hperm.filter _)] at hbetween
    exact ⟨Int.le_trans hremoved.1 hbetween.1, Int.le_trans hbetween.2 hadded.2⟩

/-! ## Calls of `sum` -/

/-- Integers and logicals, which count as 0 and 1. -/
def isCount : Literal → Bool
  | .integer _ | .logical _ => true
  | _ => false

section Counts

variable {l : Literal} (h : isCount l = true)

include h

theorem isIntegerLike_of_isCount : isIntegerLike l = true := by
  cases l with
  | integer | logical => rfl
  | _ => cases h

/-- A missing element is no integer. -/
theorem toInt?_of_present : (if !l.isMissing then toInt? l else none) = toInt? l := by
  cases l with
  | integer value | logical value => cases value <;> rfl
  | _ => cases h

end Counts

theorem isString_of_isIntegerLike {l : Literal} (h : isIntegerLike l = true) :
    isString l = false := by
  cases l with
  | string => cases h
  | _ => rfl

theorem numeric_of_integerLike {value : Value} {items : List Literal} {what : String}
    (h : value.literals = .ok items) (hitems : integerLike items = true) :
    numeric value what = .ok items := by
  have hnone : items.any isString = false := List.any_eq_false.2 fun l hl ↦ by
    simp [isString_of_isIntegerLike (List.all_eq_true.1 hitems l hl)]
  rw [numeric, h]
  change (if items.any isString = true then throw (Reason.nonNumeric what) else pure items) = _
  rw [hnone]
  rfl

/-- The elements of atomic values, one value after the other. -/
def elementsOf (values : List Value) : List Literal :=
  values.flatMap fun
    | .atomic items => items
    | _ => []

/-- What `na.rm` says about missing elements. -/
def dropsMissing (named : Bindings Value) : Except Reason Bool :=
  match named.get? "na.rm" with
  | some v => (scalarTruth v).map fun answer ↦ answer.getD false
  | none => .ok false

theorem aggregate_eq (op : AggregateOp) (args : List Value) (named : Bindings Value) :
    aggregate op args named = (do
      let drop ← dropsMissing named
      let items := (← args.mapM fun v ↦ numeric v (op.name ++ "()")).flatten
      let onIntegers := op ≠ .mean && integerLike items
      if items.any Literal.isMissing && !drop then
        return .ofLiteral (.missing (if onIntegers then .integer else .double))
      return .ofLiteral (aggregateItems op onIntegers (items.filter fun l ↦ !l.isMissing))) := by
  rw [aggregate, dropsMissing]
  cases named.get? "na.rm" with
  | none => rfl
  | some v =>
    dsimp only
    cases scalarTruth v <;> rfl

/-- The value is a vector of integers and logicals. -/
def IsCounts (value : Value) : Prop :=
  ∃ items, value = .atomic items ∧ ∀ l ∈ items, isCount l = true

theorem isCounts_integer (i : Option Int64) : IsCounts (.atomic [.integer i]) :=
  ⟨_, rfl, by simp [isCount]⟩

section Values

variable {values : List Value} (hvalues : ∀ value ∈ values, IsCounts value)

include hvalues

theorem isCount_of_mem_elementsOf : ∀ l ∈ elementsOf values, isCount l = true := by
  intro l hl
  obtain ⟨value, hvalue, hmem⟩ := List.mem_flatMap.1 hl
  obtain ⟨items, rfl, hitems⟩ := hvalues value hvalue
  exact hitems l hmem

theorem mapM_numeric_counts (what : String) :
    ∃ items, values.mapM (fun v ↦ numeric v what) = .ok items ∧
      items.flatten = elementsOf values := by
  induction values with
  | nil => exact ⟨[], rfl, rfl⟩
  | cons value later ih =>
    rw [List.forall_mem_cons] at hvalues
    obtain ⟨⟨items, rfl, hitems⟩, hlater⟩ := hvalues
    obtain ⟨rest, hrest, hflatten⟩ := ih hlater
    have hnumeric : numeric (.atomic items) what = .ok items :=
      numeric_of_integerLike rfl
        (List.all_eq_true.2 fun l hl ↦ isIntegerLike_of_isCount (hitems l hl))
    refine ⟨items :: rest, ?_, by rw [List.flatten_cons, hflatten]; rfl⟩
    rw [List.mapM_cons, hnumeric, hrest]
    rfl

/-- Sums and extremes are taken over the elements that are not missing, as integers. -/
theorem aggregate_counts {op : AggregateOp} (hop : op ≠ .mean) {named : Bindings Value}
    {drop : Bool} (hdrop : dropsMissing named = .ok drop)
    (hmissing : drop = true ∨ ∀ l ∈ elementsOf values, l.isMissing = false) :
    aggregate op values named = .ok (.ofLiteral
      (aggregateItems op true ((elementsOf values).filter fun l ↦ !l.isMissing))) := by
  obtain ⟨items, hmapM, hflatten⟩ := mapM_numeric_counts hvalues (op.name ++ "()")
  have hinteger : integerLike (elementsOf values) = true :=
    List.all_eq_true.2 fun l hl ↦ isIntegerLike_of_isCount (isCount_of_mem_elementsOf hvalues l hl)
  have honIntegers : (decide (op ≠ .mean) && integerLike (elementsOf values)) = true := by
    rw [decide_eq_true hop, hinteger]
    rfl
  have hkept : ((elementsOf values).any Literal.isMissing && !drop) = false := by
    rcases hmissing with rfl | hnone
    · rw [Bool.not_true, Bool.and_false]
    · rw [List.any_eq_false.2 fun l hl ↦ by simp [hnone l hl], Bool.false_and]
  rw [aggregate_eq, hdrop]
  change (values.mapM (fun v ↦ numeric v (op.name ++ "()")) >>= fun items ↦ _) = _
  rw [hmapM]
  change (if (items.flatten.any Literal.isMissing && !drop) = true then _ else _) = _
  rw [hflatten, hkept, if_neg Bool.false_ne_true, honIntegers]
  rfl

theorem filterMap_toInt?_present :
    ((elementsOf values).filter fun l ↦ !l.isMissing).filterMap toInt? =
      (elementsOf values).filterMap toInt? := by
  rw [List.filterMap_filter]
  exact List.filterMap_congr fun l hl ↦
    toInt?_of_present (isCount_of_mem_elementsOf hvalues l hl)

/-- Elements without missing ones are added, and the others are dropped if there are any. -/
theorem aggregate_sum {named : Bindings Value} {drop : Bool} (hdrop : dropsMissing named = .ok drop)
    (hmissing : drop = true ∨ ∀ l ∈ elementsOf values, l.isMissing = false) :
    aggregate .sum values named =
      .ok (.atomic [.integer (integerSum ((elementsOf values).filterMap toInt?))]) := by
  rw [aggregate_counts hvalues (by decide) hdrop hmissing, ← filterMap_toInt?_present hvalues]
  rfl

end Values

/-- The value of `sum` over integers and logicals, and when it is exact. Each argument is an
expression with a local value, and these are vectors of integers and logicals without missing
elements, unless missing elements are dropped. The call has the value, which stands for it if a
local binding is used. It is the exact sum if no partial sum from the left leaves the range, and
missing otherwise. So it is what it should be, the exact sum or missing if that does not fit, if and
only if no partial sum leaves the range on the way to a sum that fits. It is so in every order if
and only if the sum does not fit, or what is added and what is taken away both do. -/
theorem sum_exact_iff {scope : Scope} (args : List (Known scope))
    (named : List (String × Known scope)) {drop : Bool}
    (hvalues : ∀ a ∈ args, IsCounts a.value)
    (hdrop : dropsMissing (Bindings.mapValues Known.value named) = .ok drop)
    (hmissing : drop = true ∨ ∀ l ∈ elementsOf (args.map Known.value), l.isMissing = false) :
    let ints := (elementsOf (args.map Known.value)).filterMap toInt?
    let result := integerSum ints
    let expected := fit (exactSum ints)
    FoldsTo args named "sum" (.atomic [.integer result]) ∧
      (∀ s, result = some s ↔ StaysInRange ints ∧ s.toInt = exactSum ints) ∧
      (result = expected ↔ (InRange (exactSum ints) → StaysInRange ints)) ∧
      ((∀ ints', ints'.Perm ints → integerSum ints' = expected) ↔
        (InRange (exactSum ints) → InRange (added ints) ∧ InRange (removed ints))) := by
  intro ints result expected
  have hvalue : callLocal scope.now "sum" (args.map Known.value)
      (Bindings.mapValues Known.value named) = .ok (.atomic [.integer result]) :=
    aggregate_sum (List.forall_mem_map.2 hvalues) hdrop hmissing
  exact ⟨foldsTo_of_value args named (by decide) (by decide) hvalue, fun s ↦ integerSum_eq_some,
    integerSum_eq_fit_iff, integerSum_perm_iff⟩

/-- A visitor comes and one goes after a counter has reached the greatest integer. In this order the
sum is missing, and in the other it is the state of the counter. -/
theorem sum_exact_iff_visitors :
    let scope : Scope :=
      { columns := [], env := [("counter", .atomic [.integer (some Int64.maxValue)])],
        now := ⟨⟨2024, 1, 1⟩, 0, 0, 0⟩ }
    let sum (first second : Int64) : Expr :=
      .call "sum" [.symbol "counter", .literal (.integer (some first)),
        .literal (.integer (some second))] []
    exactSum [Int64.maxValue, 1, -1] = Int64.maxValue.toInt ∧
      ¬ StaysInRange [Int64.maxValue, 1, -1] ∧
      partialEval scope (sum 1 (-1)) = .ok (.literal (.integer none)) ∧
      partialEval scope (sum (-1) 1) = .ok (.literal (.integer (some Int64.maxValue))) := by
  intro scope sum
  let counter : Known scope :=
    .symbol scope "counter" (.atomic [.integer (some Int64.maxValue)]) rfl rfl
  let step (i : Int64) : Known scope := .literal scope (.integer (some i))
  have hvalues (first second : Int64) :
      ∀ a ∈ [counter, step first, step second], IsCounts a.value := by
    simp only [List.forall_mem_cons]
    exact ⟨isCounts_integer _, isCounts_integer _, isCounts_integer _, nofun⟩
  have hpresent (first second : Int64) : ∀ l ∈ elementsOf
      ([counter, step first, step second].map Known.value), l.isMissing = false := by
    simp [elementsOf, counter, step, Known.symbol, Known.literal, Value.ofLiteral,
      Literal.isMissing]
  obtain ⟨⟨-, hcomes⟩, -, hexact, -⟩ :=
    sum_exact_iff [counter, step 1, step (-1)] [] (hvalues _ _) rfl (.inr (hpresent _ _))
  obtain ⟨⟨-, hgoes⟩, -⟩ := sum_exact_iff [counter, step (-1), step 1] [] (hvalues _ _) rfl
    (.inr (hpresent _ _))
  refine ⟨rfl, fun hstays ↦ ?_, (hcomes rfl).trans rfl, (hgoes rfl).trans rfl⟩
  exact absurd (hexact.2 fun _ ↦ hstays) (by decide)

end SqlVerbs.Local
