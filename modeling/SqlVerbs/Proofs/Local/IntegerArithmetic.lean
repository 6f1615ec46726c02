import SqlVerbs.Proofs.Local.ExactIntegers
import SqlVerbs.Proofs.Local.Machine

/-!
# Arithmetic of integers

Sums, differences and products of integers are exact where they fit in 64 bits, and missing
otherwise. Quotients are rounded down, and a remainder has the sign of the divisor. The machine
rounds quotients toward zero, so its quotient and its remainder are corrected, each by a test of its
own on signs. The tests agree, and what they correct stays in range.
-/

namespace SqlVerbs.Local

open Host (Expr)

/-! ## Sums, differences and products -/

/-- Sums, differences and products without bounds. -/
def ArithOp.exact? : ArithOp → Option (Int → Int → Int)
  | .add => some (· + ·)
  | .sub => some (· - ·)
  | .mul => some (· * ·)
  | _ => none

theorem integerOp_eq_fit {op : ArithOp} {exact : Int → Int → Int} (hop : op.exact? = some exact)
    (x y : Int64) : integerOp op (some x) (some y) = fit (exact x.toInt y.toInt) := by
  cases op <;> cases hop <;> rfl

theorem integerOp_none_right (op : ArithOp) (x : Option Int64) : integerOp op x none = none := by
  cases x <;> rfl

/-! ## Division without bounds -/

/-- A quotient that is rounded down, and the remainder that it leaves. -/
structure RoundedDown (x y q r : Int) : Prop where
  split : x = y * q + r
  small : r.natAbs < y.natAbs
  sign : r = 0 ∨ r.sign = y.sign

section RoundedDown

variable {x y q r : Int}

/-- The remainder is between zero and the divisor, on its side. -/
theorem roundedDown_iff :
    RoundedDown x y q r ↔ x = y * q + r ∧ (0 ≤ r ∧ r < y ∨ y < r ∧ r ≤ 0) := by
  constructor
  · rintro ⟨hsplit, hsmall, hzero | hsign⟩
    · exact ⟨hsplit, by omega⟩
    · refine ⟨hsplit, ?_⟩
      rcases lt_trichotomy r 0 with hneg | hzero | hpos
      · rw [Int.sign_eq_neg_one_of_neg hneg, eq_comm, Int.sign_eq_neg_one_iff_neg] at hsign
        omega
      · omega
      · rw [Int.sign_eq_one_of_pos hpos, eq_comm, Int.sign_eq_one_iff_pos] at hsign
        omega
  · rintro ⟨hsplit, hbetween⟩
    refine ⟨hsplit, by omega, ?_⟩
    rcases lt_trichotomy r 0 with hneg | hzero | hpos
    · right
      rw [Int.sign_eq_neg_one_of_neg hneg, Int.sign_eq_neg_one_of_neg (by omega)]
    · exact .inl hzero
    · right
      rw [Int.sign_eq_one_of_pos hpos, Int.sign_eq_one_of_pos (by omega)]

theorem RoundedDown.eq_floor (h : RoundedDown x y q r) : q = ⌊(x / y : ℚ)⌋ := by
  obtain ⟨hsplit, hbetween⟩ := roundedDown_iff.1 h
  have hne : (y : ℚ) ≠ 0 := by exact_mod_cast show y ≠ 0 by omega
  have hquotient : (x / y : ℚ) = q + r / y := by
    rw [hsplit]
    push_cast
    field_simp
  have hfraction : 0 ≤ (r / y : ℚ) ∧ (r / y : ℚ) < 1 := by
    rcases hbetween with ⟨hge, hlt⟩ | ⟨hgt, hle⟩
    · have hpos : (0 : ℚ) < y := by exact_mod_cast hge.trans_lt hlt
      rw [div_lt_one hpos]
      exact ⟨div_nonneg (by exact_mod_cast hge) hpos.le, by exact_mod_cast hlt⟩
    · have hneg : (y : ℚ) < 0 := by exact_mod_cast hgt.trans_le hle
      rw [div_lt_one_of_neg hneg]
      exact ⟨div_nonneg_of_nonpos (by exact_mod_cast hle) hneg.le, by exact_mod_cast hgt⟩
  rw [eq_comm, Int.floor_eq_iff, hquotient]
  exact ⟨le_add_of_nonneg_right hfraction.1, by linarith [hfraction.2]⟩

/-- A remainder that is not zero has the sign of the dividend. -/
theorem tmod_neg_iff (h : x.tmod y ≠ 0) : x.tmod y < 0 ↔ x < 0 := by
  have hdvd : ¬ y ∣ x := fun hdvd ↦ h (Int.tmod_eq_zero_of_dvd hdvd)
  rw [← Int.sign_eq_neg_one_iff_neg, Int.sign_tmod, if_neg hdvd, Int.sign_eq_neg_one_iff_neg]

/-- Rounding toward zero is rounding down, unless a rest is left and the signs differ. Then the
quotient is one less. -/
theorem roundedDown_of_truncated (hy : y ≠ 0) :
    if x.tmod y ≠ 0 ∧ ¬ (x < 0 ↔ y < 0) then
      RoundedDown x y (x.tdiv y - 1) (x.tmod y + y)
    else RoundedDown x y (x.tdiv y) (x.tmod y) := by
  have hsplit : x = y * x.tdiv y + x.tmod y := (Int.mul_tdiv_add_tmod x y).symm
  have hsmall : (x.tmod y).natAbs < y.natAbs := by
    rw [Int.natAbs_tmod]
    exact Nat.mod_lt _ (Int.natAbs_pos.2 hy)
  split
  · rename_i hdiffer
    have hrest := tmod_neg_iff hdiffer.1
    exact roundedDown_iff.2 ⟨by linear_combination hsplit, by omega⟩
  · rename_i hagree
    refine roundedDown_iff.2 ⟨hsplit, ?_⟩
    by_cases hzero : x.tmod y = 0
    · omega
    · have hrest := tmod_neg_iff hzero
      omega

end RoundedDown

/-! ## The corrections of the machine's division -/

/-- Is the quotient corrected? This is asked of the dividend. -/
def correctsQuotient (x y : Int64) : Bool :=
  x % y ≠ 0 && decide (x < 0) != decide (y < 0)

/-- Is the remainder corrected? This is asked of the machine's remainder. -/
def correctsRemainder (x y : Int64) : Bool :=
  x % y ≠ 0 && decide (x % y < 0) != decide (y < 0)

section Machine

variable {x y : Int64}

theorem correctsQuotient_iff :
    correctsQuotient x y = true ↔
      x.toInt.tmod y.toInt ≠ 0 ∧ ¬ (x.toInt < 0 ↔ y.toInt < 0) := by
  simp only [correctsQuotient, Bool.and_eq_true, decide_eq_true_iff, bne_iff_ne, ne_eq,
    decide_eq_decide, Int64.lt_iff_toInt_lt, Int64.toInt_zero, ← Int64.toInt_inj, Int64.toInt_mod]

theorem correctsRemainder_eq : correctsRemainder x y = correctsQuotient x y := by
  by_cases hrest : x % y = 0
  · rw [correctsRemainder, correctsQuotient, hrest]
    rfl
  · have hsign : x % y < 0 ↔ x < 0 := by
      rw [Int64.lt_iff_toInt_lt, Int64.lt_iff_toInt_lt, Int64.toInt_mod]
      refine tmod_neg_iff fun hzero ↦ hrest ?_
      rw [← Int64.toInt_inj, Int64.toInt_mod, hzero]
      rfl
    rw [correctsRemainder, correctsQuotient, decide_eq_decide.2 hsign]

theorem quotientFails_iff : quotientFails x y = true ↔ y = 0 ∨ x = Int64.minValue ∧ y = -1 := by
  simp only [quotientFails, Bool.or_eq_true, Bool.and_eq_true, decide_eq_true_iff]

variable (hdefined : ¬ (y = 0 ∨ x = Int64.minValue ∧ y = -1))

include hdefined

theorem toInt_quotient : (x / y).toInt = x.toInt.tdiv y.toInt := by
  by_cases hleast : x = Int64.minValue
  · exact Int64.toInt_div_of_ne_right x y fun hy ↦ hdefined (.inr ⟨hleast, hy⟩)
  · exact Int64.toInt_div_of_ne_left x y hleast

/-- The corrected remainder is between the machine's and the divisor, and the quotient is not the
least integer. -/
theorem corrections_inRange (h : correctsQuotient x y = true) :
    InRange ((x / y).toInt - 1) ∧ InRange ((x % y).toInt + y.toInt) := by
  have hsigns := correctsQuotient_iff.1 h
  have hrest := tmod_neg_iff hsigns.1
  rw [← Int64.toInt_mod] at hsigns hrest
  constructor
  · have hne : x % y ≠ 0 := fun hzero ↦ hsigns.1 (by rw [hzero]; rfl)
    have hlow := Machine.minValue_lt_quotient (fun hy ↦ hdefined (.inl hy)) hne
    exact ⟨by omega, (sub_one_lt _).le.trans (inRange_toInt (x / y)).2⟩
  · have hremainder := inRange_toInt (x % y)
    have hdivisor := inRange_toInt y
    unfold InRange at hremainder hdivisor ⊢
    omega

theorem integerFloorDiv_eq_some :
    ∃ q, integerFloorDiv x y = some q ∧
      q.toInt = (x / y).toInt - if correctsQuotient x y = true then 1 else 0 := by
  have hfails : ¬ quotientFails x y = true := mt quotientFails_iff.1 hdefined
  rw [integerFloorDiv, if_neg hfails]
  change ∃ q, (if correctsQuotient x y = true then fit _ else some _) = some q ∧ _
  split
  · rename_i hcorrects
    have hrange := (corrections_inRange hdefined hcorrects).1
    exact ⟨_, if_pos hrange, toInt_ofInt_of_inRange hrange⟩
  · exact ⟨_, rfl, (sub_zero _).symm⟩

theorem integerMod_eq_some :
    ∃ r, integerMod x y = some r ∧
      r.toInt = (x % y).toInt + if correctsQuotient x y = true then y.toInt else 0 := by
  have hfails : ¬ quotientFails x y = true := mt quotientFails_iff.1 hdefined
  rw [integerMod, if_neg hfails, ← correctsRemainder_eq]
  change ∃ r, (if correctsRemainder x y = true then some _ else some _) = some r ∧ _
  split
  · rename_i hcorrects
    have hrange := (corrections_inRange hdefined (correctsRemainder_eq ▸ hcorrects)).2
    refine ⟨_, rfl, ?_⟩
    rw [← toInt_ofInt_of_inRange hrange, Int64.ofInt_add, Int64.ofInt_toInt, Int64.ofInt_toInt]
  · exact ⟨_, rfl, (add_zero _).symm⟩

theorem roundedDown_corrected {q r : Int64}
    (hq : q.toInt = (x / y).toInt - if correctsQuotient x y = true then 1 else 0)
    (hr : r.toInt = (x % y).toInt + if correctsQuotient x y = true then y.toInt else 0) :
    RoundedDown x.toInt y.toInt q.toInt r.toInt := by
  have htruncated := roundedDown_of_truncated (x := x.toInt) (y := y.toInt)
    fun hzero ↦ hdefined (.inl (Int64.toInt_inj.1 hzero))
  simp only [← correctsQuotient_iff] at htruncated
  rw [hq, hr, toInt_quotient hdefined, Int64.toInt_mod]
  split
  · rename_i hcorrects
    rwa [if_pos hcorrects] at htruncated
  · rename_i hcorrects
    rw [if_neg hcorrects] at htruncated
    rwa [sub_zero, add_zero]

end Machine

/-! ## Calls -/

/-- Vectors of integers and logicals are combined element by element, as integers. -/
theorem arith_integerLike {op : ArithOp} (hop : op.keepsIntegers = true) {left right : Value}
    {a b : List Literal} (hleft : left.literals = .ok a) (hright : right.literals = .ok b)
    (ha : integerLike a = true) (hb : integerLike b = true) :
    arith op left right = .ok (.atomic ((recycle a b).map fun (x, y) ↦
      .integer (integerOp op (toInt? x) (toInt? y)))) := by
  rw [arith, numeric_of_integerLike hleft ha, numeric_of_integerLike hright hb]
  change Except.ok (Value.atomic ((recycle a b).map fun pair ↦
    if (op.keepsIntegers && integerLike a && integerLike b) = true then _ else _)) = _
  rw [hop, ha, hb]
  rfl

theorem callLocal_arith (now : Calendar.DateTime) {name : String} {op : ArithOp}
    (hop : ArithOp.ofName? name = some op) (x y : Value) :
    callLocal now name [x, y] [] = arith op x y := by
  unfold ArithOp.ofName? at hop
  split at hop <;> cases hop <;> rfl

theorem local_of_arith {name : String} {op : ArithOp} (hop : ArithOp.ofName? name = some op) :
    ¬ alwaysLocal.contains name = true ∧ ¬ alwaysRemote.contains name = true := by
  unfold ArithOp.ofName? at hop
  split at hop <;> cases hop <;> decide

/-- Arithmetic of 64-bit integers is exact or missing.

* Sums, differences and products are the exact results, and missing where these do not fit.
* Quotients and remainders are missing if and only if the divisor is zero, or the least integer is
  divided by minus one. Otherwise the quotient is the one without bounds, rounded down, and the
  remainder is what it leaves, which is smaller than the divisor and has its sign. They are the
  machine's quotient and remainder, corrected in the same cases, and no correction leaves the range.
* What is combined with a missing integer is missing.
* The call of an operator on expressions with local values, which are vectors of integers, logicals
  and `NULL`, has the results for all pairs of elements, where the shorter vector is repeated. -/
theorem integer_arithmetic_exact :
    (∀ (op : ArithOp) (exact : Int → Int → Int), op.exact? = some exact → ∀ x y : Int64,
      (∀ z, integerOp op (some x) (some y) = some z ↔ z.toInt = exact x.toInt y.toInt) ∧
      (integerOp op (some x) (some y) = none ↔ ¬ InRange (exact x.toInt y.toInt))) ∧
    (∀ x y : Int64,
      if y = 0 ∨ x = Int64.minValue ∧ y = -1 then
        integerOp .floorDiv (some x) (some y) = none ∧ integerOp .mod (some x) (some y) = none
      else
        ∃ q r, integerOp .floorDiv (some x) (some y) = some q ∧
          integerOp .mod (some x) (some y) = some r ∧
          q.toInt = ⌊(x.toInt / y.toInt : ℚ)⌋ ∧
          RoundedDown x.toInt y.toInt q.toInt r.toInt ∧
          correctsRemainder x y = correctsQuotient x y ∧
          if correctsQuotient x y = true then
            InRange ((x / y).toInt - 1) ∧ InRange ((x % y).toInt + y.toInt) ∧
              q.toInt = (x / y).toInt - 1 ∧ r.toInt = (x % y).toInt + y.toInt
          else q = x / y ∧ r = x % y) ∧
    (∀ (op : ArithOp) (z : Option Int64),
      integerOp op none z = none ∧ integerOp op z none = none) ∧
    (∀ (scope : Scope) (left right : Known scope) (a b : List Literal) (name : String)
      (op : ArithOp), ArithOp.ofName? name = some op → op.keepsIntegers = true →
        left.value.literals = .ok a → right.value.literals = .ok b →
          integerLike a = true → integerLike b = true →
            FoldsTo [left, right] [] name (.atomic ((recycle a b).map fun (x, y) ↦
              .integer (integerOp op (toInt? x) (toInt? y))))) := by
  refine ⟨?bounded, ?division, fun op z ↦ ⟨rfl, integerOp_none_right op z⟩, ?calls⟩
  case bounded =>
    intro op exact hop x y
    rw [integerOp_eq_fit hop]
    exact ⟨fun z ↦ fit_eq_some, fit_eq_none⟩
  case division =>
    intro x y
    split
    · rename_i hundefined
      have hfails := quotientFails_iff.2 hundefined
      exact ⟨if_pos hfails, if_pos hfails⟩
    · rename_i hdefined
      obtain ⟨q, hquotient, hq⟩ := integerFloorDiv_eq_some hdefined
      obtain ⟨r, hremainder, hr⟩ := integerMod_eq_some hdefined
      have hrounded := roundedDown_corrected hdefined hq hr
      refine ⟨q, r, hquotient, hremainder, hrounded.eq_floor, hrounded, correctsRemainder_eq, ?_⟩
      split
      · rename_i hcorrects
        rw [if_pos hcorrects] at hq hr
        obtain ⟨hlow, hhigh⟩ := corrections_inRange hdefined hcorrects
        exact ⟨hlow, hhigh, hq, hr⟩
      · rename_i hcorrects
        rw [if_neg hcorrects] at hq hr
        exact ⟨Int64.toInt_inj.1 (by rw [hq, sub_zero]), Int64.toInt_inj.1 (by rw [hr, add_zero])⟩
  case calls =>
    intro scope left right a b name op hop hkeeps hleft hright ha hb
    obtain ⟨hlocal, hremote⟩ := local_of_arith hop
    refine foldsTo_of_value _ _ hlocal hremote ?_
    change callLocal scope.now name [left.value, right.value] [] = _
    rw [callLocal_arith _ hop, arith_integerLike hkeeps hleft hright ha hb]

/-- A shortfall of seven, in parts of two and in parts of three, and what no integer can be. -/
theorem integer_arithmetic_exact_shortfall :
    let scope : Scope :=
      { columns := [], env := [("shortfall", .atomic [.integer (some (-7)), .logical none]),
          ("least", .atomic [.integer (some Int64.minValue)])],
        now := ⟨⟨2024, 1, 1⟩, 0, 0, 0⟩ }
    let constant (i : Int64) : Expr := .literal (.integer (some i))
    let call (name symbol : String) (i : Int64) : Expr :=
      .call name [.symbol symbol, constant i] []
    partialEval scope (call "%/%" "shortfall" 2) =
        .ok (.vector [.integer (some (-4)), .integer none]) ∧
      partialEval scope (call "%%" "shortfall" 3) =
        .ok (.vector [.integer (some 2), .integer none]) ∧
      partialEval scope (call "%%" "least" (-1)) = .ok (.literal (.integer none)) ∧
      partialEval scope (call "-" "least" 1) = .ok (.literal (.integer none)) ∧
      integerOp .sub (some Int64.minValue) (some 1) = none := by
  intro scope constant call
  let shortfall : Known scope :=
    .symbol scope "shortfall" (.atomic [.integer (some (-7)), .logical none]) rfl rfl
  let least : Known scope :=
    .symbol scope "least" (.atomic [.integer (some Int64.minValue)]) rfl rfl
  let known (i : Int64) : Known scope := .literal scope (.integer (some i))
  obtain ⟨hbounded, -, -, hcalls⟩ := integer_arithmetic_exact
  obtain ⟨-, hquotient⟩ :=
    hcalls scope shortfall (known 2) _ _ "%/%" .floorDiv rfl rfl rfl rfl rfl rfl
  obtain ⟨-, hremainder⟩ :=
    hcalls scope shortfall (known 3) _ _ "%%" .mod rfl rfl rfl rfl rfl rfl
  obtain ⟨-, hwhole⟩ := hcalls scope least (known (-1)) _ _ "%%" .mod rfl rfl rfl rfl rfl rfl
  obtain ⟨-, hbelow⟩ := hcalls scope least (known 1) _ _ "-" .sub rfl rfl rfl rfl rfl rfl
  exact ⟨(hquotient rfl).trans rfl, (hremainder rfl).trans rfl, (hwhole rfl).trans rfl,
    (hbelow rfl).trans rfl, (hbounded .sub _ rfl Int64.minValue 1).2.2 (by decide)⟩

end SqlVerbs.Local
