import SqlVerbs.Proofs.Double.UnitSteps
import SqlVerbs.Proofs.Local.Agreement
import SqlVerbs.Proofs.Local.ExactIntegers
import SqlVerbs.Proofs.Lowering.Slices

/-!
# Sequences of integers

A sequence from one integer to another has all integers between them. A sequence up to a length
starts at one and goes toward the length, and only for the length zero it is empty. So a length
between zero and one makes it go downward from one, where it should be empty.
-/

namespace SqlVerbs.Local

open Double (HasValue)
open Host (Expr)

/-! ## Numbers -/

/-- The number that a literal is. -/
inductive IsNumber : Literal → ℚ → Prop where
  | integer (i : Int64) : IsNumber (.integer (some i)) i.toInt
  | double {d : Float} {x : ℚ} (h : HasValue d x) : IsNumber (.double (some d)) x

/-- The expression is known to be a number. -/
def Known.IsNumber {scope : Scope} (a : Known scope) (x : ℚ) : Prop :=
  ∃ l, a.value = .ofLiteral l ∧ Local.IsNumber l x

/-- Up to 53 bits, integers are seen as the doubles that they are. -/
theorem IsNumber.toDouble? {l : Literal} {x : ℚ} (h : IsNumber l x) (hx : |x| < 2 ^ 53) :
    ∃ d, l.toDouble? = some d ∧ HasValue d x := by
  cases h with
  | integer i =>
    have hlt : i.toInt.natAbs < 2 ^ 53 := by
      rw [← Nat.cast_lt (α := ℚ), Nat.cast_natAbs]
      exact_mod_cast hx
    exact ⟨_, rfl, Double.hasValue_ofInt hlt⟩
  | double h => exact ⟨_, rfl, h⟩

/-! ## The expected elements -/

/-- The integers from one to another in steps of one, upward or downward. -/
def between (a b : Int) : List Int :=
  (List.range ((b - a).natAbs + 1)).map fun (i : Nat) ↦ if a ≤ b then a + i else a - i

/-- A vector of integers. -/
def wholes (items : List Int) : Value := integers (items.map fun i ↦ some (Int64.ofInt i))

/-- The positive integers up to a number. -/
def counting (x : ℚ) : List Int := (List.range ⌊x⌋₊).map fun (i : Nat) ↦ 1 + i

/-- The elements that a sequence up to a length has. -/
def counted (x : ℚ) : List Int :=
  if x = 0 then []
  else if x * 2 ^ 54 ≤ 1 then [1, 0]
  else if x < 1 then [1]
  else counting x

/-- Only lengths between zero and one are miscounted. -/
theorem counted_eq_counting_iff {x : ℚ} : counted x = counting x ↔ x = 0 ∨ 1 ≤ x := by
  have hempty (hlt : x < 1) : counting x = [] := by
    rw [counting, Nat.floor_eq_zero.2 hlt]
    rfl
  rw [counted]
  split
  · rename_i hzero
    exact iff_of_true (hempty (hzero ▸ one_pos)).symm (.inl hzero)
  rename_i hne
  split
  · rename_i htiny
    have hlt : x < 1 := by linarith
    simp [hempty hlt, hne, hlt]
  split
  · rename_i hlt
    simp [hempty hlt, hne, hlt]
  · rename_i hge
    simp [not_lt.1 hge]

/-- The elements are those that steps from one toward the length give. -/
theorem counted_eq_steps {x : ℚ} (hpos : 0 < x) :
    counted x = (List.range ((if x * 2 ^ 54 ≤ 1 then 1 else ⌊x - 1⌋₊) + 1)).map fun (i : Nat) ↦
      if 1 ≤ x then 1 + (i : Int) else 1 - i := by
  rw [counted, if_neg hpos.ne']
  rcases lt_or_ge x 1 with hlt | hge
  · simp only [if_neg hlt.not_ge, if_pos hlt, Nat.floor_of_nonpos (sub_nonpos.2 hlt.le)]
    split <;> rfl
  · have hlarge : ¬ x * 2 ^ 54 ≤ 1 := by linarith
    have hfloor : ⌊x - 1⌋₊ + 1 = ⌊x⌋₊ := by
      rw [Nat.floor_sub_one, Nat.sub_add_cancel]
      exact Nat.le_floor (by exact_mod_cast hge)
    simp only [if_pos hge, if_neg hge.not_gt, if_neg hlarge, hfloor]
    rfl

theorem between_one {n : Nat} (hn : 0 < n) : between 1 n = counting n := by
  have hcount : ((n : Int) - 1).natAbs + 1 = n := by omega
  rw [between, hcount, counting, Nat.floor_natCast]
  exact List.map_congr_left fun i _ ↦ if_pos (by omega)

/-- The last element is the other end. -/
theorem getLast?_between (a b : Int) : (between a b).getLast? = some b := by
  rw [between, List.range_succ, List.map_append, List.map_singleton, List.getLast?_append]
  simp only [List.getLast?_singleton, Option.some_or, Option.some.injEq]
  split <;> omega

/-! ## Steps -/

section Steps

variable {x y : Float} {a b : Int}

theorem smallWhole?_of_hasValue (hx : HasValue x a) (ha : a.natAbs < 10 ^ 15) :
    smallWhole? x = some a :=
  smallWhole?_eq_some.2 ⟨hx, ha⟩

/-- Between whole numbers the steps are counted exactly, even where the last one is too large to
count as a small whole number. -/
theorem stepCount_whole (hx : HasValue x a) (hy : HasValue y b) (ha : a.natAbs < 2 ^ 53)
    (hb : b.natAbs < 2 ^ 53) (hab : (b - a).natAbs < 2 ^ 53) :
    stepCount x y = (b - a).natAbs := by
  rw [stepCount]
  split
  · rename_i a' b' hfirst hlast
    have hfirst' := (smallWhole?_eq_some.1 hfirst).1
    have hlast' := (smallWhole?_eq_some.1 hlast).1
    have ha' : a' = a := by exact_mod_cast hfirst'.unique hx
    have hb' : b' = b := by exact_mod_cast hlast'.unique hy
    rw [ha', hb']
  · have hvalue := Double.hasValue_natAbs (Double.hasValue_sub hy hx hb ha hab) hab
    have hlt : (((b - a).natAbs : Int) : ℚ) < 2 ^ 53 := by exact_mod_cast hab
    rw [hvalue.toUnsigned_floor (by positivity) hlt, Int.cast_natCast, Nat.floor_natCast]

/-- From a small whole number the elements are integers. -/
theorem sequenceItems_whole (hx : smallWhole? x = some a) (upward : Bool) (count : Nat) :
    sequenceItems x upward count = ((List.range count).map fun (i : Nat) ↦
      if upward = true then a + i else a - i).map fun i ↦ .integer (some (Int64.ofInt i)) := by
  rw [sequenceItems, hx, List.map_map]
  rfl

/-- A sequence that is not too long has its elements. -/
theorem sequence_eq {v w : Value} (hv : scalarDouble v "from" = .ok x)
    (hw : scalarDouble w "to" = .ok y) (hx : Double.isFinite x = true)
    (hy : Double.isFinite y = true) (hcount : stepCount x y < maxSequence) :
    sequence v w =
      .ok (.atomic (sequenceItems x (decide (y ≥ x)) (stepCount x y + 1))) := by
  rw [sequence, hv]
  simp only [bind, Except.bind, hw, hx, hy]
  simp [Nat.not_lt.2 (Nat.succ_le_of_lt hcount)]
  rfl

end Steps

/-! ## Sequences of numbers -/

theorem sequence_whole {l m : Literal} {a b : Int} (hl : IsNumber l a) (hm : IsNumber m b)
    (ha : a.natAbs < 10 ^ 15) (hab : (b - a).natAbs < 10 ^ 7) :
    sequence (.ofLiteral l) (.ofLiteral m) = .ok (wholes (between a b)) := by
  have hexact {i : Int} (hi : i.natAbs < 2 ^ 53) : |(i : ℚ)| < 2 ^ 53 := by
    rw [← Int.cast_abs, Int.abs_eq_natAbs]
    exact_mod_cast hi
  obtain ⟨x, hx, hxvalue⟩ := hl.toDouble? (hexact (by omega))
  obtain ⟨y, hy, hyvalue⟩ := hm.toDouble? (hexact (by omega))
  have hcount := stepCount_whole hxvalue hyvalue (by omega) (by omega) (by omega)
  have hupward : decide (y ≥ x) = decide (a ≤ b) := by
    rw [decide_eq_decide, ge_iff_le, hxvalue.float_le_iff hyvalue, Int.cast_le]
  rw [sequence_eq (scalarDouble_ofLiteral hx _) (scalarDouble_ofLiteral hy _)
    hxvalue.isFinite_eq_true hyvalue.isFinite_eq_true (hcount ▸ hab),
    sequenceItems_whole (smallWhole?_of_hasValue hxvalue ha), hcount, hupward]
  simp [wholes, between, integers]

/-- From one toward a number that is not whole. -/
theorem sequence_fraction {d : Float} {x : ℚ} (hd : HasValue d x) (hpos : 0 < x)
    (hle : x ≤ 10 ^ 7) (hfraction : ∀ i : Int, x ≠ i) :
    sequence (.atomic [.integer (some 1)]) (.atomic [.double (some d)]) =
      .ok (wholes (counted x)) := by
  have hone : HasValue (Double.ofInt64 1) ((1 : Int) : ℚ) := Double.hasValue_ofInt (by decide)
  have hne : x ≠ 1 := by exact_mod_cast hfraction 1
  have hlast : smallWhole? d = none := by
    by_contra h
    obtain ⟨i, hi⟩ := Option.ne_none_iff_exists'.1 h
    exact hfraction i (hd.unique (smallWhole?_eq_some.1 hi).1)
  have hcount : stepCount (Double.ofInt64 1) d = if x * 2 ^ 54 ≤ 1 then 1 else ⌊x - 1⌋₊ := by
    rw [stepCount, hlast]
    have hunpack : (Double.ofInt64 1).toModel.unpack = Double.unpackedOne := rfl
    cases smallWhole? (Double.ofInt64 1) <;>
      exact Double.toUnsigned_floor_abs_sub_one hd hunpack hpos (by linarith) hne
  have hbound : stepCount (Double.ofInt64 1) d < maxSequence := by
    rw [hcount]
    split
    · decide
    · exact (Nat.floor_lt' (by decide)).2 (by norm_num [maxSequence]; linarith)
  have hupward : decide (d ≥ Double.ofInt64 1) = decide (1 ≤ x) := by
    rw [decide_eq_decide, ge_iff_le, hone.float_le_iff hd, Int.cast_one]
  rw [sequence_eq (x := Double.ofInt64 1) (y := d) rfl rfl hone.isFinite_eq_true
    hd.isFinite_eq_true hbound, sequenceItems_whole (smallWhole?_of_hasValue hone (by decide)),
    hcount, hupward]
  rw [counted_eq_steps hpos]
  simp [wholes, integers]

theorem sequence_toward_whole {d : Float} {i : Int} (hd : HasValue d i) (hpos : 0 < i)
    (hle : i ≤ 10 ^ 7) :
    sequence (.atomic [.integer (some 1)]) (.atomic [.double (some d)]) =
      .ok (wholes (counted i)) := by
  obtain ⟨n, rfl⟩ := Int.eq_ofNat_of_zero_le hpos.le
  have hone : IsNumber (.integer (some 1)) ((1 : Int) : ℚ) := .integer 1
  have hcounted : counted ((n : Int) : ℚ) = counting ((n : Int) : ℚ) :=
    counted_eq_counting_iff.2 (.inr (by exact_mod_cast hpos))
  have hsequence := sequence_whole hone (.double hd) (by decide) (by omega)
  rw [between_one (by omega)] at hsequence
  rw [hcounted]
  exact hsequence

/-- A sequence up to a length from zero to ten million. -/
theorem sequenceOfLength_eq {l : Literal} {x : ℚ} (hl : IsNumber l x) (hx : 0 ≤ x)
    (hle : x ≤ 10 ^ 7) : sequenceOfLength (.ofLiteral l) = .ok (wholes (counted x)) := by
  obtain ⟨d, hd, hvalue⟩ := hl.toDouble? (abs_lt.2 ⟨by linarith, by linarith⟩)
  have hzero : HasValue 0.0 0 := ⟨⟨false, 0, -1074⟩, by decide, Double.value_zero .positive⟩
  have hnonneg : ¬ d < 0.0 := by
    rw [hvalue.float_lt_iff hzero]
    exact hx.not_gt
  have hlength : sequenceOfLength (.ofLiteral l) = if (d == 0.0) = true then .ok (.atomic [])
      else sequence (.atomic [.integer (some 1)]) (.atomic [.double (some d)]) := by
    rw [sequenceOfLength, scalarDouble_ofLiteral hd]
    simp only [bind, Except.bind, if_neg hnonneg]
    split <;> rfl
  rw [hlength]
  split
  · rename_i hequal
    rw [counted, if_pos ((hvalue.float_beq_iff hzero).1 hequal)]
    rfl
  · rename_i hequal
    have hpos : 0 < x := hx.lt_of_ne' ((hvalue.float_beq_iff hzero).not.1 hequal)
    by_cases hwhole : ∃ i : Int, x = i
    · obtain ⟨i, rfl⟩ := hwhole
      exact sequence_toward_whole hvalue (by exact_mod_cast hpos) (by exact_mod_cast hle)
    · exact sequence_fraction hvalue hpos hle fun i hi ↦ hwhole ⟨i, hi⟩

/-! ## Folded sequences -/

theorem toInt_ofInt_of_natAbs_lt {i : Int} (h : i.natAbs < 2 ^ 53) : (Int64.ofInt i).toInt = i :=
  Int64.toInt_ofInt_of_le (by omega) (by omega)

theorem natAbs_lt_of_mem_between {a b i : Int} (ha : a.natAbs < 10 ^ 15)
    (hab : (b - a).natAbs < 10 ^ 7) (hi : i ∈ between a b) : i.natAbs < 2 ^ 53 := by
  obtain ⟨j, hj, rfl⟩ := List.mem_map.1 hi
  rw [List.mem_range] at hj
  split <;> omega

theorem natAbs_lt_of_mem_counted {x : ℚ} (hle : x ≤ 10 ^ 7) {i : Int} (hi : i ∈ counted x) :
    i.natAbs < 2 ^ 53 := by
  have hcounting : i ∈ counting x → i.natAbs < 2 ^ 53 := by
    intro hi
    obtain ⟨j, hj, rfl⟩ := List.mem_map.1 hi
    have hfloor : ⌊x⌋₊ ≤ 10 ^ 7 := Nat.floor_le_of_le (by exact_mod_cast hle)
    rw [List.mem_range] at hj
    omega
  rw [counted] at hi
  split at hi
  · cases hi
  split at hi
  · simp only [List.mem_cons, List.not_mem_nil, or_false] at hi
    omega
  split at hi
  · rw [List.mem_singleton] at hi
    omega
  · exact hcounting hi

section Folded

variable {scope : Scope}

/-- Sequences are always evaluated on this side. -/
theorem fold_sequence {first last : Known scope} {value : Value}
    (h : sequence first.value last.value = .ok value) :
    fold scope (spelled [first, last] [] ":") =
      .ok (.bound (spelled [first, last] [] ":") value) := by
  have heval : eval scope (spelled [first, last] [] ":") = .ok value := by
    have hvalued : Valued scope [first.expr, last.expr] [first.value, last.value] :=
      .cons (fold_givesValue first.fold_eq _ first.value_eq)
        (.cons (fold_givesValue last.fold_eq _ last.value_eq) .nil)
    have hcall : callLocal scope.now ":" [first.value, last.value] [] = .ok value := h
    refine eval_call.2 (.function rfl hvalued ?_ ?_ hcall)
    · rfl
    · exact .nil
  exact foldLocal_of_eval heval

end Folded

/-- Which elements local sequences have. The ends and the length are expressions with a local value
that is a number.

* From `a` to `b` the elements are `a`, the integers in between and `b`, in this order.
* Up to the length `x` they are `1` to the whole part of `x` if and only if `x` is zero or at least
  one. For other lengths below one, where there should be none, there is `1`, and for lengths up to
  `2 ^ (-54)` also `0`. -/
theorem sequence_elements_iff (scope : Scope) :
    (∀ (first last : Known scope) (a b : Int), first.IsNumber a → last.IsNumber b →
      a.natAbs < 10 ^ 15 → (b - a).natAbs < 10 ^ 7 →
        let e := spelled [first, last] [] ":"
        fold scope e = .ok (.bound e (wholes (between a b))) ∧
          partialEval scope e = blame e (wholes (between a b)).toExpr ∧
          (between a b).length = (b - a).natAbs + 1 ∧ (between a b).getLast? = some b ∧
          ∀ i ∈ between a b, (Int64.ofInt i).toInt = i) ∧
    ∀ (length : Known scope) (x : ℚ), length.IsNumber x → 0 ≤ x → x ≤ 10 ^ 7 →
      FoldsTo [length] [] "seq_len" (wholes (counted x)) ∧
        (counted x = counting x ↔ x = 0 ∨ 1 ≤ x) ∧
        ∀ i ∈ counted x, (Int64.ofInt i).toInt = i := by
  constructor
  · rintro first last a b ⟨l, hl, hfirst⟩ ⟨m, hm, hlast⟩ ha hab e
    have hvalue : sequence first.value last.value = .ok (wholes (between a b)) := by
      rw [hl, hm]
      exact sequence_whole hfirst hlast ha hab
    have hfold := fold_sequence hvalue
    refine ⟨hfold, ?_, by simp [between], getLast?_between a b,
      fun i hi ↦ toInt_ofInt_of_natAbs_lt (natAbs_lt_of_mem_between ha hab hi)⟩
    rw [partialEval, hfold]
    rfl
  · rintro length x ⟨l, hl, hlength⟩ hx hle
    refine ⟨foldsTo_of_value _ _ (by decide) (by decide) ?_, counted_eq_counting_iff,
      fun i hi ↦ toInt_ofInt_of_natAbs_lt (natAbs_lt_of_mem_counted hle hi)⟩
    change sequenceOfLength length.value = _
    rw [hl]
    exact sequenceOfLength_eq hlength hx hle

/-- `2L:-1` goes down to the double, and `seq_len(share)` with a share of `0.5` is `1L`. -/
theorem sequence_elements_iff_share :
    let scope : Scope :=
      { columns := [], env := [("share", .atomic [.double (some 0.5)])],
        now := ⟨⟨2024, 1, 1⟩, 0, 0, 0⟩ }
    partialEval scope
          (.call ":" [.literal (.integer (some 2)), .literal (.double (some (-1.0)))] []) =
        .ok (.vector ([2, 1, 0, -1].map fun i ↦ .integer (some i))) ∧
      partialEval scope (.call "seq_len" [.symbol "share"] []) =
        .ok (.literal (.integer (some 1))) ∧
      counted (1 / 2) = [1] ∧ counting (1 / 2) = [] := by
  intro scope
  let first : Known scope := .literal scope (.integer (some 2))
  let last : Known scope := .literal scope (.double (some (-1.0)))
  let share : Known scope := .symbol scope "share" (.atomic [.double (some 0.5)]) rfl rfl
  have hfirst : first.IsNumber (2 : Int) := ⟨_, rfl, .integer 2⟩
  have hlast : last.IsNumber (-1 : Int) := ⟨_, rfl, .double ⟨⟨true, 0x10000000000000, -52⟩,
    by decide, by norm_num [Double.Parts.value, Double.Parts.size]⟩⟩
  have hshare : share.IsNumber (1 / 2) := ⟨_, rfl, .double ⟨⟨false, 0x10000000000000, -53⟩,
    by decide, by norm_num [Double.Parts.value, Double.Parts.size]⟩⟩
  have hcounted : counted (1 / 2) = [1] := by norm_num [counted]
  have hcounting : counting (1 / 2) = [] := by norm_num [counting]
  obtain ⟨hsequence, hlength⟩ := sequence_elements_iff scope
  obtain ⟨-, hdown, -⟩ := hsequence first last 2 (-1) hfirst hlast (by decide) (by decide)
  obtain ⟨⟨-, hone⟩, -⟩ := hlength share (1 / 2) hshare (by norm_num) (by norm_num)
  rw [hcounted] at hone
  exact ⟨hdown, hone rfl, hcounted, hcounting⟩

end SqlVerbs.Local
