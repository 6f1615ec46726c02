import SqlVerbs.Proofs.Double.Rounding
import SqlVerbs.Proofs.Double.Values

/-!
# Integers as doubles

A 64-bit integer as a double is the integer that is nearest to it among those with 53 bits. The
order of two integers is kept, except that different ones may become equal.
-/

namespace SqlVerbs.Double

open Float.Model (UnpackedFloat)
open Float.Model.UnpackedFloat (Sign)

/-! ## The nearest natural number -/

/-- Rounding stays between the powers of two. -/
theorem nearestNat_bounds {n : Nat} (hpos : 0 < n) :
    2 ^ n.log2 ≤ nearestNat n ∧ nearestNat n ≤ 2 ^ (n.log2 + 1) := by
  obtain ⟨hle, hlt⟩ := (Nat.log2_eq_iff hpos.ne').1 rfl
  by_cases hsmall : n < 2 ^ 53
  · rw [nearestNat_of_lt hsmall]
    exact ⟨hle, hlt.le⟩
  · have hlog : 53 ≤ n.log2 := (Nat.le_log2 hpos.ne').2 (by omega)
    obtain ⟨t, ht⟩ : ∃ t, n.log2 = 52 + t := ⟨n.log2 - 52, by omega⟩
    obtain ⟨hlow, hhigh⟩ := nearestQuotient_bits ht
    have hunit : unit n = 2 ^ t := by
      rw [unit, ht, Nat.add_sub_cancel_left]
    rw [nearestNat, hunit, ht]
    constructor
    · rw [Nat.pow_add]
      exact Nat.mul_le_mul_right _ hlow
    · rw [Nat.add_right_comm, Nat.pow_add]
      exact Nat.mul_le_mul_right _ hhigh

theorem nearestNat_mono {m n : Nat} (h : m ≤ n) : nearestNat m ≤ nearestNat n := by
  rcases Nat.eq_zero_or_pos m with rfl | hm
  · rw [nearestNat_of_lt (Nat.two_pow_pos 53)]
    exact Nat.zero_le _
  · have hn : 0 < n := hm.trans_le h
    have hlog : m.log2 ≤ n.log2 := by
      rw [Nat.le_log2 hn.ne']
      exact (Nat.log2_self_le hm.ne').trans h
    rcases hlog.lt_or_eq with hlt | heq
    · calc nearestNat m ≤ 2 ^ (m.log2 + 1) := (nearestNat_bounds hm).2
        _ ≤ 2 ^ n.log2 := Nat.pow_le_pow_right two_pos hlt
        _ ≤ nearestNat n := (nearestNat_bounds hn).1
    · have hunit : unit m = unit n := by rw [unit, unit, heq]
      rw [nearestNat, nearestNat, hunit]
      exact Nat.mul_le_mul_right _ (nearestQuotient_mono h _)

/-- No multiple of the unit is nearer. -/
theorem nearestNat_near (n : Nat) :
    2 * n ≤ 2 * nearestNat n + unit n ∧ 2 * nearestNat n ≤ 2 * n + unit n := by
  have hsplit := Nat.div_add_mod n (unit n)
  have hlt : n % unit n < unit n := Nat.mod_lt n (Nat.two_pow_pos _)
  rw [nearestNat]
  obtain ⟨hquotient, hrest⟩ | ⟨hquotient, hrest⟩ := nearestQuotient_cases n (unit n)
  · rw [hquotient, Nat.mul_comm (n / unit n)]
    omega
  · rw [hquotient, Nat.add_mul, Nat.one_mul, Nat.mul_comm (n / unit n)]
    omega

/-- Only multiples of their unit are kept. -/
theorem nearestNat_eq_self_iff {n : Nat} : nearestNat n = n ↔ unit n ∣ n := by
  constructor
  · intro h
    exact ⟨nearestQuotient n (unit n), by rw [Nat.mul_comm]; exact h.symm⟩
  · intro h
    have hquotient : nearestQuotient n (unit n) = n / unit n := by
      have hrest : 2 * (n % unit n) < unit n := by
        rw [Nat.mod_eq_zero_of_dvd h]
        exact Nat.two_pow_pos _
      exact if_pos hrest
    rw [nearestNat, hquotient, Nat.div_mul_cancel h]

/-! ## The nearest integer -/

/-- The integer of 53 bits that is nearest to an integer; of two such, the one with the even
multiple. -/
def nearest (i : Int) : Int := i.sign * nearestNat i.natAbs

theorem nearest_natCast (n : Nat) : nearest n = nearestNat n := by
  rcases Nat.eq_zero_or_pos n with rfl | hpos
  · rfl
  · rw [nearest, Int.sign_natCast_of_ne_zero hpos.ne', one_mul, Int.natAbs_natCast]

theorem nearest_neg (i : Int) : nearest (-i) = -nearest i := by
  rw [nearest, nearest, Int.sign_neg, Int.natAbs_neg, neg_mul]

theorem natAbs_nearest (i : Int) : (nearest i).natAbs = nearestNat i.natAbs := by
  rcases i.natAbs_eq with h | h
  · rw [h, nearest_natCast, Int.natAbs_natCast, Int.natAbs_natCast]
  · rw [h, nearest_neg, nearest_natCast, Int.natAbs_neg, Int.natAbs_natCast, Int.natAbs_neg,
      Int.natAbs_natCast]

theorem nearest_mono {i j : Int} (h : i ≤ j) : nearest i ≤ nearest j := by
  obtain ⟨m, rfl | rfl⟩ := i.eq_nat_or_neg
  · obtain ⟨n, rfl⟩ := Int.eq_ofNat_of_zero_le (m.cast_nonneg.trans h)
    rw [nearest_natCast, nearest_natCast]
    exact Int.ofNat_le.2 (nearestNat_mono (Int.ofNat_le.1 h))
  · obtain ⟨n, rfl | rfl⟩ := j.eq_nat_or_neg
    · rw [nearest_neg, nearest_natCast, nearest_natCast]
      omega
    · rw [nearest_neg, nearest_neg, nearest_natCast, nearest_natCast]
      exact neg_le_neg (Int.ofNat_le.2 (nearestNat_mono (Int.ofNat_le.1 (neg_le_neg_iff.1 h))))

/-- The order of the nearest integers is that of the integers, unless they are one. -/
theorem compare_nearest {i j : Int} (h : nearest i ≠ nearest j) :
    compare (nearest i) (nearest j) = compare i j := by
  rcases lt_trichotomy i j with hlt | rfl | hgt
  · rw [compare_lt_iff_lt.2 hlt, compare_lt_iff_lt]
    exact lt_of_le_of_ne (nearest_mono hlt.le) h
  · exact absurd rfl h
  · rw [compare_gt_iff_gt.2 hgt, compare_gt_iff_gt]
    exact lt_of_le_of_ne (nearest_mono hgt.le) h.symm

/-! ## Integers as doubles -/

section Signed

variable {d : Float} {sign : Sign} {size : ℚ}

theorem IsSigned.shape_eq (hd : IsSigned d sign size) :
    ∃ p, shape d = .finite p ∧ p.negative = signBit sign ∧ p.size = size := by
  obtain ⟨m, e, hnormal, hunpack, hsize⟩ := hd
  refine ⟨⟨signBit sign, m, e⟩, ?_, rfl, hsize⟩
  rw [Double.shape_eq, hunpack]
  rfl

theorem IsSigned.abs (hd : IsSigned d sign size) : IsSigned (abs d) .positive size := by
  obtain ⟨p, hshape, hnegative, -⟩ := hd.shape_eq
  have hsign : isNegative d = signBit sign := by rw [isNegative, hshape, ← hnegative]
  rw [Double.abs, hsign]
  cases sign with
  | positive => exact hd
  | negative => exact hd.neg

end Signed

theorem isSigned_ofInt {i : Int} (hne : i ≠ 0) (hlt : i.natAbs < 2 ^ 64) :
    IsSigned (Float.ofInt i) (if i < 0 then .negative else .positive) (nearestNat i.natAbs) := by
  cases i with
  | ofNat n =>
    rw [if_neg (show ¬ Int.ofNat n < 0 from (Int.natCast_nonneg n).not_gt)]
    exact isSigned_ofNat (Nat.pos_of_ne_zero fun h ↦ hne (by rw [h]; rfl)) hlt
  | negSucc n =>
    rw [if_pos (Int.negSucc_lt_zero n)]
    exact (isSigned_ofNat n.succ_pos hlt).neg

/-- A finite double of this value. -/
def HasValue (d : Float) (value : ℚ) : Prop := ∃ p, shape d = .finite p ∧ p.value = value

theorem HasValue.unique {d : Float} {x y : ℚ} (hx : HasValue d x) (hy : HasValue d y) :
    x = y := by
  obtain ⟨p, hp, rfl⟩ := hx
  obtain ⟨q, hq, rfl⟩ := hy
  cases hp.symm.trans hq
  rfl

theorem HasValue.isFinite_eq_true {d : Float} {x : ℚ} (hd : HasValue d x) :
    isFinite d = true := by
  obtain ⟨p, hp, -⟩ := hd
  rw [isFinite, hp]

section Order

variable {d e : Float} {x y : ℚ} (hd : HasValue d x) (he : HasValue e y)

include hd he

theorem HasValue.float_lt_iff : d < e ↔ x < y := by
  obtain ⟨p, hp, rfl⟩ := hd
  obtain ⟨q, hq, rfl⟩ := he
  exact lt_iff_value hp hq

theorem HasValue.float_le_iff : d ≤ e ↔ x ≤ y := by
  obtain ⟨p, hp, rfl⟩ := hd
  obtain ⟨q, hq, rfl⟩ := he
  exact le_iff_value hp hq

theorem HasValue.float_beq_iff : (d == e) = true ↔ x = y := by
  obtain ⟨p, hp, rfl⟩ := hd
  obtain ⟨q, hq, rfl⟩ := he
  exact beq_iff_value hp hq

end Order

theorem IsSigned.hasValue {d : Float} {sign : Sign} {size : ℚ} (hd : IsSigned d sign size) :
    HasValue d (if signBit sign then -size else size) := by
  obtain ⟨p, hshape, hnegative, hsize⟩ := hd.shape_eq
  exact ⟨p, hshape, by rw [Parts.value, hnegative, hsize]⟩

/-- The sign and the size of an integer make its value. -/
theorem IsSigned.hasValue_int {d : Float} {i : Int}
    (hd : IsSigned d (if i < 0 then .negative else .positive) i.natAbs) : HasValue d i := by
  have hvalue := hd.hasValue
  rw [Nat.cast_natAbs] at hvalue
  rcases lt_or_ge i 0 with hlt | hge
  · rw [if_pos hlt, signBit, if_pos rfl, abs_of_neg hlt, Int.cast_neg, neg_neg] at hvalue
    exact hvalue
  · rwa [if_neg hge.not_gt, signBit, if_neg Bool.false_ne_true, abs_of_nonneg hge] at hvalue

theorem hasValue_zero : HasValue (Float.ofInt 0) 0 :=
  ⟨⟨false, 0, -1074⟩, by decide, value_zero .positive⟩

theorem natAbs_toInt_lt (i : Int64) : i.toInt.natAbs < 2 ^ 64 := by
  have hlow := i.le_toInt
  have hhigh := i.toInt_lt
  omega

theorem hasValue_ofInt64 (i : Int64) : HasValue (ofInt64 i) (nearest i.toInt) := by
  rw [ofInt64]
  rcases lt_trichotomy i.toInt 0 with hlt | hzero | hgt
  · have hvalue := (isSigned_ofInt hlt.ne (natAbs_toInt_lt i)).hasValue
    rw [if_pos hlt, signBit, if_pos rfl] at hvalue
    rw [nearest, Int.sign_eq_neg_one_of_neg hlt, neg_one_mul]
    exact_mod_cast hvalue
  · rw [hzero]
    exact hasValue_zero
  · have hvalue := (isSigned_ofInt hgt.ne' (natAbs_toInt_lt i)).hasValue
    rw [if_neg hgt.not_gt, signBit, if_neg Bool.false_ne_true] at hvalue
    rw [nearest, Int.sign_eq_one_of_pos hgt, one_mul]
    exact_mod_cast hvalue

theorem hasValue_abs_ofInt64 (i : Int64) :
    HasValue (abs (ofInt64 i)) (nearest i.toInt).natAbs := by
  rw [ofInt64]
  rcases eq_or_ne i.toInt 0 with hzero | hne
  · have habs : abs (Float.ofInt 0) = Float.ofInt 0 := if_neg (by decide)
    rw [hzero, habs]
    exact hasValue_zero
  · rw [natAbs_nearest]
    exact (isSigned_ofInt hne (natAbs_toInt_lt i)).abs.hasValue

theorem doubleOrder_ofInt64 (x y : Int64) :
    Local.doubleOrder (ofInt64 x) (ofInt64 y) =
      some (compare (nearest x.toInt) (nearest y.toInt)) := by
  obtain ⟨p, hx, hp⟩ := hasValue_ofInt64 x
  obtain ⟨q, hy, hq⟩ := hasValue_ofInt64 y
  rw [doubleOrder_value hx hy, hp, hq, ← cmp_eq_compare, ← cmp_eq_compare]
  exact congrArg some (Int.cast_strictMono.cmp_map_eq _ _)

/-! ## Doubles as integers -/

/-- The bound below which doubles are cast to integers. -/
def castBound : Nat := 9200000000000000000

theorem hasValue_castBound : HasValue 9.2e18 castBound :=
  ⟨⟨false, 8984375000000000, 10⟩, by decide, by norm_num [Parts.value, Parts.size, castBound]⟩

theorem abs_ofInt64_lt_iff (i : Int64) :
    abs (ofInt64 i) < 9.2e18 ↔ (nearest i.toInt).natAbs < castBound := by
  rw [(hasValue_abs_ofInt64 i).float_lt_iff hasValue_castBound, Nat.cast_lt]

theorem isFinite_ofInt64 (i : Int64) : isFinite (ofInt64 i) = true :=
  (hasValue_ofInt64 i).isFinite_eq_true

theorem inRange_of_lt_castBound {n : Int} (h : n.natAbs < castBound) :
    Int64.minValue.toInt ≤ n ∧ n ≤ Int64.maxValue.toInt := by
  have hmin : Int64.minValue.toInt = -9223372036854775808 := rfl
  have hmax : Int64.maxValue.toInt = 9223372036854775807 := rfl
  rw [castBound] at h
  omega

theorem toInt64_ofInt64 {i : Int64} (h : (nearest i.toInt).natAbs < castBound) :
    toInt64 (ofInt64 i) = Int64.ofInt (nearest i.toInt) := by
  obtain ⟨p, hshape, hvalue⟩ := hasValue_ofInt64 i
  obtain ⟨hlow, hhigh⟩ := inRange_of_lt_castBound h
  rw [toInt64, clampTo, hshape]
  dsimp only
  rw [Parts.trunc_of_value hvalue, min_eq_right hhigh, max_eq_right hlow]

end SqlVerbs.Double
