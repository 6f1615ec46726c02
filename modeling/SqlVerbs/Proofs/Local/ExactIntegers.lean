import SqlVerbs.Proofs.Double.Integers
import SqlVerbs.Proofs.Local.Sums

/-!
# Integers that are compared and cast

Extremes are taken over integers as they are, but comparisons and the cast to an integer see them as
doubles. So integers that have one nearest double are equal to them, and an integer is cast to the
one that is nearest to it, if that is not too large.
-/

namespace SqlVerbs.Local

open Host (Expr)

/-- A vector of integers. -/
def integers (items : List (Option Int64)) : Value := .atomic (items.map .integer)

/-! ## Comparisons -/

theorem cyclic_map {α β : Type} (f : α → β) (items : List α) (i : Nat) :
    cyclic (items.map f).toArray i = (cyclic items.toArray i).map f := by
  simp [cyclic]

theorem recycle_map {α β γ δ : Type} (f : α → γ) (g : β → δ) (a : List α) (b : List β) :
    recycle (a.map f) (b.map g) = (recycle a b).map fun (x, y) ↦ (f x, g y) := by
  simp only [recycle, cyclic_map, List.map_filterMap, List.size_toArray, List.length_map,
    List.isEmpty_map]
  congr 1
  funext i
  cases cyclic a.toArray i <;> cases cyclic b.toArray i <;> rfl

/-- The comparison of two integers, each as the view has it. A missing one makes it missing. -/
def compareAs (view : Int → Int) (op : CompareOp) (x y : Option Int64) : Option Bool := do
  return op.holds (Ord.compare (view (← x).toInt) (view (← y).toInt))

/-- The comparisons of two vectors of integers. -/
def comparisons (view : Int → Int) (op : CompareOp) (a b : List (Option Int64)) : Value :=
  .atomic ((recycle a b).map fun (x, y) ↦ .logical (compareAs view op x y))

theorem literalOrder_integers (op : CompareOp) (x y : Option Int64) :
    (literalOrder false (.integer x) (.integer y)).map op.holds =
      compareAs Double.nearest op x y := by
  cases x with
  | none => rfl
  | some x =>
    cases y with
    | none => rfl
    | some y => exact congrArg (Option.map op.holds) (Double.doubleOrder_ofInt64 x y)

theorem compare_integers (op : CompareOp) (a b : List (Option Int64)) :
    compare op (integers a) (integers b) = .ok (comparisons Double.nearest op a b) := by
  have hnumbers : (a.map Literal.integer ++ b.map Literal.integer).any isString = false := by
    simp [List.any_append, List.any_map, Function.comp_def, isString]
  change Except.ok (Value.atomic ((recycle (a.map .integer) (b.map .integer)).map fun pair ↦
    .logical ((literalOrder ((a.map Literal.integer ++ b.map Literal.integer).any isString) pair.1
      pair.2).map op.holds))) = _
  rw [hnumbers, recycle_map, List.map_map, comparisons]
  simp only [Function.comp_def, literalOrder_integers]

/-- Two integers with one nearest double are compared as if they were equal, and others as they
are. -/
theorem compareAs_nearest_iff (op : CompareOp) (x y : Int64) :
    compareAs Double.nearest op (some x) (some y) = compareAs id op (some x) (some y) ↔
      (Double.nearest x.toInt = Double.nearest y.toInt →
        op.holds .eq = op.holds (Ord.compare x.toInt y.toInt)) := by
  change some _ = some _ ↔ _
  rw [Option.some.injEq, id, id]
  by_cases hsame : Double.nearest x.toInt = Double.nearest y.toInt
  · rw [compare_eq_iff_eq.2 hsame]
    exact ⟨fun h _ ↦ h, fun h ↦ h hsame⟩
  · rw [Double.compare_nearest hsame]
    exact ⟨fun _ h ↦ absurd h hsame, fun _ ↦ rfl⟩

theorem comparisons_nearest_iff (op : CompareOp) (a b : List (Option Int64)) :
    comparisons Double.nearest op a b = comparisons id op a b ↔
      ∀ x y, (some x, some y) ∈ recycle a b → Double.nearest x.toInt = Double.nearest y.toInt →
        op.holds .eq = op.holds (Ord.compare x.toInt y.toInt) := by
  rw [comparisons, comparisons, Value.atomic.injEq, List.map_inj_left]
  constructor
  · intro h x y hmem
    exact (compareAs_nearest_iff op x y).1 (Literal.logical.inj (h _ hmem))
  · rintro h ⟨_ | x, _ | y⟩ hmem
    · rfl
    · rfl
    · rfl
    · exact congrArg Literal.logical ((compareAs_nearest_iff op x y).2 (h x y hmem))

/-! ## Casts -/

/-- An integer that has been a double. -/
def castBack (i : Int64) : Option Int64 :=
  if (Double.nearest i.toInt).natAbs < Double.castBound then
    some (Int64.ofInt (Double.nearest i.toInt))
  else none

theorem castInteger_integer (x : Option Int64) :
    castInteger (.integer x) = .integer (x.bind castBack) := by
  cases x with
  | none => rfl
  | some i =>
    have hguard : (Double.isFinite (Double.ofInt64 i) &&
        decide (Double.abs (Double.ofInt64 i) < 9.2e18)) = true ↔
          (Double.nearest i.toInt).natAbs < Double.castBound := by
      rw [Double.isFinite_ofInt64, Bool.true_and, decide_eq_true_iff, Double.abs_ofInt64_lt_iff]
    change Literal.integer (if (Double.isFinite (Double.ofInt64 i) &&
      decide (Double.abs (Double.ofInt64 i) < 9.2e18)) = true then _ else _) = _
    rw [Option.bind_some, castBack]
    split
    · rename_i hsmall
      rw [if_pos (hguard.1 hsmall), Double.toInt64_ofInt64 (hguard.1 hsmall)]
    · rename_i hlarge
      rw [if_neg (hguard.not.1 hlarge)]

theorem castAll_integers (a : List (Option Int64)) :
    castAll castInteger (integers a) = .ok (integers (a.map fun x ↦ x.bind castBack)) := by
  change Except.ok (Value.atomic ((a.map Literal.integer).map castInteger)) = _
  rw [List.map_map, integers, List.map_map]
  simp only [Function.comp_def, castInteger_integer]

theorem castBack_eq_self_iff (i : Int64) :
    castBack i = some i ↔ Double.nearest i.toInt = i.toInt ∧ i.toInt.natAbs < Double.castBound := by
  rw [castBack]
  split
  · rename_i hsmall
    rw [Option.some.injEq, ← Int64.toInt_inj,
      toInt_ofInt_of_inRange (Double.inRange_of_lt_castBound hsmall)]
    exact ⟨fun hsame ↦ ⟨hsame, hsame ▸ hsmall⟩, fun h ↦ h.1⟩
  · rename_i hlarge
    exact ⟨nofun, fun ⟨hsame, hsmall⟩ ↦ absurd (hsame.symm ▸ hsmall) hlarge⟩

theorem integers_castBack_iff (a : List (Option Int64)) :
    integers (a.map fun x ↦ x.bind castBack) = integers a ↔ ∀ i, some i ∈ a →
      Double.nearest i.toInt = i.toInt ∧ i.toInt.natAbs < Double.castBound := by
  rw [integers, integers, List.map_map, Value.atomic.injEq, List.map_inj_left]
  constructor
  · intro h i hmem
    exact (castBack_eq_self_iff i).1 (Literal.integer.inj (h _ hmem))
  · rintro h (_ | i) hmem
    · rfl
    · exact congrArg Literal.integer ((castBack_eq_self_iff i).2 (h i hmem))

/-! ## Extremes -/

section Extreme

variable {better : Int64 → Int64 → Bool} {rank : Int64 → Int}
  (hbetter : ∀ i j, better i j = true ↔ rank i < rank j)

include hbetter

theorem foldl_extreme (first : Int64) (rest : List Int64) :
    rest.foldl (fun acc i ↦ if better i acc then i else acc) first ∈ first :: rest ∧
      ∀ i ∈ first :: rest,
        rank (rest.foldl (fun acc i ↦ if better i acc then i else acc) first) ≤ rank i := by
  induction rest generalizing first with
  | nil => simp
  | cons next rest ih =>
    rw [List.foldl_cons]
    split
    · rename_i hnext
      obtain ⟨hmem, hle⟩ := ih next
      refine ⟨List.mem_cons_of_mem _ hmem, List.forall_mem_cons.2 ⟨?_, hle⟩⟩
      exact (hle next List.mem_cons_self).trans ((hbetter _ _).1 hnext).le
    · rename_i hnext
      obtain ⟨hmem, hle⟩ := ih first
      rw [List.forall_mem_cons] at hle
      refine ⟨?_, List.forall_mem_cons.2 ⟨hle.1, List.forall_mem_cons.2 ⟨?_, hle.2⟩⟩⟩
      · rcases List.mem_cons.1 hmem with hfirst | hlater
        · exact List.mem_cons.2 (.inl hfirst)
        · exact List.mem_cons_of_mem _ (List.mem_cons_of_mem _ hlater)
      · exact hle.1.trans (not_lt.1 fun hlt ↦ hnext ((hbetter _ _).2 hlt))

theorem integerExtreme_spec {items : List Int64} (hne : items ≠ []) :
    ∃ extreme ∈ items, integerExtreme better items = some extreme ∧
      ∀ i ∈ items, rank extreme ≤ rank i := by
  cases items with
  | nil => exact absurd rfl hne
  | cons first rest =>
    obtain ⟨hmem, hle⟩ := foldl_extreme hbetter first rest
    exact ⟨_, hmem, rfl, hle⟩

/-- The extreme is taken over the integers as they are. -/
theorem aggregate_extreme {op : AggregateOp} (hop : op ≠ .mean)
    (hitems : ∀ items, items ≠ [] →
      aggregateItems op true items = .integer (integerExtreme better (items.filterMap toInt?)))
    {values : List Value} (hvalues : ∀ value ∈ values, IsCounts value)
    (hpresent : ∀ l ∈ elementsOf values, l.isMissing = false)
    (hne : (elementsOf values).filterMap toInt? ≠ []) :
    ∃ extreme ∈ (elementsOf values).filterMap toInt?,
      aggregate op values [] = .ok (integers [some extreme]) ∧
        ∀ i ∈ (elementsOf values).filterMap toInt?, rank extreme ≤ rank i := by
  obtain ⟨extreme, hmem, hextreme, hle⟩ := integerExtreme_spec hbetter hne
  refine ⟨extreme, hmem, ?_, hle⟩
  have hkept : (elementsOf values).filter (fun l ↦ !l.isMissing) ≠ [] := by
    intro hnil
    rw [← filterMap_toInt?_present hvalues, hnil] at hne
    exact hne rfl
  rw [aggregate_counts hvalues hop rfl (.inr hpresent), hitems _ hkept,
    filterMap_toInt?_present hvalues, hextreme]
  rfl

end Extreme

theorem aggregateItems_min (items : List Literal) (hne : items ≠ []) :
    aggregateItems .min true items =
      .integer (integerExtreme (fun a b ↦ a < b) (items.filterMap toInt?)) := by
  cases items with
  | nil => exact absurd rfl hne
  | cons => rfl

theorem aggregateItems_max (items : List Literal) (hne : items ≠ []) :
    aggregateItems .max true items =
      .integer (integerExtreme (fun a b ↦ b < a) (items.filterMap toInt?)) := by
  cases items with
  | nil => exact absurd rfl hne
  | cons => rfl

/-! ## Calls -/

theorem callLocal_compare (now : Calendar.DateTime) {name : String} {op : CompareOp}
    (hop : CompareOp.ofName? name = some op) (x y : Value) :
    callLocal now name [x, y] [] = compare op x y := by
  unfold CompareOp.ofName? at hop
  split at hop <;> cases hop <;> rfl

theorem local_of_compare {name : String} {op : CompareOp} (hop : CompareOp.ofName? name = some op) :
    ¬ alwaysLocal.contains name = true ∧ ¬ alwaysRemote.contains name = true := by
  unfold CompareOp.ofName? at hop
  split at hop <;> cases hop <;> decide

/-- When local functions treat integers exactly. The arguments are expressions with local values.

* A comparison of two vectors of integers, element by element with the shorter one repeated, is the
  comparison of the nearest doubles. It is that of the integers if and only if the operator does
  not tell equal integers from the order of any two that have one nearest double.
* A vector of integers that is cast to integers stays as it is if and only if each of them is a
  double, and below the bound of the cast.
* The extremes of integers and logicals are the least and the greatest of them. -/
theorem integers_exact_iff (scope : Scope) :
    (∀ (left right : Known scope) (a b : List (Option Int64)) (name : String) (op : CompareOp),
      CompareOp.ofName? name = some op → left.value = integers a → right.value = integers b →
        FoldsTo [left, right] [] name (comparisons Double.nearest op a b) ∧
        (comparisons Double.nearest op a b = comparisons id op a b ↔
          ∀ x y, (some x, some y) ∈ recycle a b →
            Double.nearest x.toInt = Double.nearest y.toInt →
              op.holds .eq = op.holds (Ord.compare x.toInt y.toInt))) ∧
    (∀ (arg : Known scope) (a : List (Option Int64)), arg.value = integers a →
      FoldsTo [arg] [] "as.integer" (integers (a.map fun x ↦ x.bind castBack)) ∧
      (integers (a.map fun x ↦ x.bind castBack) = integers a ↔
        ∀ i, some i ∈ a → Double.nearest i.toInt = i.toInt ∧ i.toInt.natAbs < Double.castBound)) ∧
    (∀ args : List (Known scope), (∀ a ∈ args, IsCounts a.value) →
      (∀ l ∈ elementsOf (args.map Known.value), l.isMissing = false) →
        let ints := (elementsOf (args.map Known.value)).filterMap toInt?
        ints ≠ [] →
          (∃ least ∈ ints, FoldsTo args [] "min" (integers [some least]) ∧
            ∀ i ∈ ints, least.toInt ≤ i.toInt) ∧
          ∃ greatest ∈ ints, FoldsTo args [] "max" (integers [some greatest]) ∧
            ∀ i ∈ ints, i.toInt ≤ greatest.toInt) := by
  refine ⟨?comparison, ?cast, ?extremes⟩
  case comparison =>
    intro left right a b name op hop hleft hright
    obtain ⟨hlocal, hremote⟩ := local_of_compare hop
    refine ⟨foldsTo_of_value _ _ hlocal hremote ?_, comparisons_nearest_iff op a b⟩
    change callLocal scope.now name [left.value, right.value] [] = _
    rw [callLocal_compare _ hop, hleft, hright, compare_integers]
  case cast =>
    intro arg a harg
    refine ⟨foldsTo_of_value _ _ (by decide) (by decide) ?_, integers_castBack_iff a⟩
    change castAll castInteger arg.value = _
    rw [harg, castAll_integers]
  case extremes =>
    intro args hcounts hpresent ints hne
    have hvalues := List.forall_mem_map.2 hcounts
    have hless (i j : Int64) : decide (i < j) = true ↔ i.toInt < j.toInt := by
      rw [decide_eq_true_iff, Int64.lt_iff_toInt_lt]
    have hgreater (i j : Int64) : decide (j < i) = true ↔ -i.toInt < -j.toInt := by
      rw [hless, neg_lt_neg_iff]
    constructor
    · obtain ⟨least, hmem, hvalue, hle⟩ :=
        aggregate_extreme hless (by decide) aggregateItems_min hvalues hpresent hne
      exact ⟨least, hmem, foldsTo_of_value args [] (by decide) (by decide) hvalue, hle⟩
    · obtain ⟨greatest, hmem, hvalue, hle⟩ :=
        aggregate_extreme hgreater (by decide) aggregateItems_max hvalues hpresent hne
      exact ⟨greatest, hmem, foldsTo_of_value args [] (by decide) (by decide) hvalue,
        fun i hi ↦ neg_le_neg_iff.1 (hle i hi)⟩

/-- Two serial numbers that follow each other, of which only the first is a double. They are equal,
and the cast of the second is the first, but the second is the greater one. -/
theorem integers_exact_iff_serials :
    let scope : Scope :=
      { columns := [], env := [("serial", .atomic [.integer (some 9007199254740993)])],
        now := ⟨⟨2024, 1, 1⟩, 0, 0, 0⟩ }
    let serial : Expr := .symbol "serial"
    let previous : Expr := .literal (.integer (some 9007199254740992))
    Double.nearest 9007199254740993 = 9007199254740992 ∧
      comparisons Double.nearest .eq [some 9007199254740993] [some 9007199254740992] ≠
        comparisons id .eq [some 9007199254740993] [some 9007199254740992] ∧
      partialEval scope (.call "==" [serial, previous] []) = .ok (.literal (.logical (some true))) ∧
      partialEval scope (.call "as.integer" [serial] []) =
        .ok (.literal (.integer (some 9007199254740992))) ∧
      partialEval scope (.call "max" [serial, previous] []) =
        .ok (.literal (.integer (some 9007199254740993))) := by
  intro scope serial previous
  let current : Known scope :=
    .symbol scope "serial" (.atomic [.integer (some 9007199254740993)]) rfl rfl
  let before : Known scope := .literal scope (.integer (some 9007199254740992))
  obtain ⟨hcompare, hcast, hextremes⟩ := integers_exact_iff scope
  obtain ⟨⟨-, hequal⟩, hexact⟩ := hcompare current before [some 9007199254740993]
    [some 9007199254740992] "==" .eq rfl rfl rfl
  obtain ⟨⟨-, hcastBack⟩, -⟩ := hcast current [some 9007199254740993] rfl
  obtain ⟨-, greatest, hmem, ⟨-, hmax⟩, hgreatest⟩ := hextremes [current, before]
    (by
      simp only [List.forall_mem_cons]
      exact ⟨isCounts_integer _, isCounts_integer _, nofun⟩)
    (by simp [elementsOf, current, before, Known.symbol, Known.literal, Value.ofLiteral,
      Literal.isMissing])
    (by decide)
  have hgreater : greatest = 9007199254740993 := by
    have hle := hgreatest 9007199254740993 (by decide)
    have hcases : greatest ∈ [(9007199254740993 : Int64), 9007199254740992] := hmem
    rcases List.mem_pair.1 hcases with rfl | rfl
    · rfl
    · exact absurd hle (by decide)
  subst hgreater
  refine ⟨by decide, fun hsame ↦ ?_, (hequal rfl).trans rfl, (hcastBack rfl).trans rfl,
    (hmax rfl).trans rfl⟩
  have hagree := hexact.1 hsame 9007199254740993 9007199254740992 (by decide) (by decide)
  exact absurd hagree (by decide)

end SqlVerbs.Local
