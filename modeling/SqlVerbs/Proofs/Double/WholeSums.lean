import SqlVerbs.Proofs.Double.Integers

/-!
# Sums of whole numbers

The sum and the difference of two doubles are aligned to the smaller exponent, computed exactly and
then rounded. Whole numbers of at most 53 bits are doubles, so between them nothing is lost.
-/

namespace SqlVerbs.Double

open Float.Model (UnpackedFloat Format)
open Float.Model.UnpackedFloat (Sign)

/-! ## Rounding numbers over powers of two -/

/-- Powers of two are not lost. -/
theorem nearestNat_mul_two_pow (n k : Nat) : nearestNat (n * 2 ^ k) = nearestNat n * 2 ^ k := by
  rcases Nat.eq_zero_or_pos n with rfl | hpos
  · rw [zero_mul, nearestNat_of_lt (by decide), zero_mul]
  rcases Nat.lt_or_ge n (2 ^ 53) with hlt | hge
  · have hlog : n.log2 < 53 := (Nat.log2_lt hpos.ne').2 hlt
    rw [nearestNat_of_lt hlt, nearestNat_eq_self_iff, unit, log2_mul_two_pow hpos]
    exact (pow_dvd_pow 2 (by omega)).trans (Nat.dvd_mul_left _ _)
  · have hlog : 53 ≤ n.log2 := (Nat.le_log2 hpos.ne').2 hge
    have hunit : unit (n * 2 ^ k) = unit n * 2 ^ k := by
      rw [unit, unit, log2_mul_two_pow hpos, ← Nat.pow_add]
      congr 1
      omega
    rw [nearestNat, nearestNat, hunit, nearestQuotient_mul_right _ _ (Nat.two_pow_pos k),
      mul_assoc]

/-- A number over a power of two is rounded to 53 bits, if it is neither too small nor too large
for them. -/
theorem isSigned_round {d : Float} {sign : Sign} {n k : Nat} (hpos : 0 < n)
    (hlow : k ≤ n.log2 + 1022) (hhigh : n.log2 ≤ k + 1000)
    (hd : d.toModel = Float.Model.pack (UnpackedFloat.round .binary64 sign n (-k))) :
    IsSigned d sign (nearestNat n / 2 ^ k) := by
  have htarget : Format.binary64.targetExponent (Float.Model.totalExponent n (-k)) =
      n.log2 - k - 52 := by
    simp only [Format.targetExponent, Float.Model.totalExponent, Format.mantissaBits,
      Format.minExponent]
    omega
  rw [UnpackedFloat.round, htarget, UnpackedFloat.decreaseExponent] at hd
  dsimp only at hd
  rcases Nat.le_total n.log2 52 with hle | hge
  · -- There is room for more bits, so that nothing is rounded.
    obtain ⟨j, hj⟩ : ∃ j, n.log2 + j = 52 := ⟨52 - n.log2, by omega⟩
    have hamount : (-(k : Int) - (n.log2 - k - 52)).toNat = j := by omega
    have hexact : nearestNat n = n := nearestNat_of_lt (Nat.log2_lt hpos.ne' |>.1 (by omega))
    rw [hamount, Nat.shiftLeft_eq] at hd
    refine isSigned_of_rounded (t := 0) hd (by rw [log2_mul_two_pow hpos, hj]) (by omega)
      (by omega) ?_
    rw [pow_zero, nearestQuotient_one, hexact, Nat.cast_zero, add_zero, zpow_sub₀ two_ne_zero,
      zpow_neg, zpow_natCast, zpow_natCast]
    push_cast
    field_simp
  · obtain ⟨t, ht⟩ : ∃ t, n.log2 = 52 + t := ⟨n.log2 - 52, by omega⟩
    have hamount : (-(k : Int) - (n.log2 - k - 52)).toNat = 0 := by omega
    have hunit : unit n = 2 ^ t := by rw [unit, ht, Nat.add_sub_cancel_left]
    rw [hamount, Nat.shiftLeft_zero, Nat.cast_zero, sub_zero] at hd
    refine isSigned_of_rounded (t := t) hd ht (by omega) (by omega) ?_
    rw [nearestNat, hunit, zpow_add₀ two_ne_zero, zpow_neg, zpow_natCast, zpow_natCast]
    push_cast
    field_simp

theorem unpack_pack_zero (sign : Sign) :
    (Float.Model.pack (.zero sign)).unpack = .zero sign := by
  cases sign <;> rfl

theorem hasValue_pack_zero {d : Float} {sign : Sign}
    (hd : d.toModel = Float.Model.pack (.zero sign)) : HasValue d 0 := by
  refine ⟨⟨signBit sign, 0, -1074⟩, ?_, value_zero sign⟩
  rw [shape_eq, hd, unpack_pack_zero, Shape.ofUnpacked]

/-- A sum over a power of two is rounded to 53 bits, too. -/
theorem isSigned_normalize {d : Float} {i : Int} {k : Nat} (hne : i ≠ 0)
    (hlow : k ≤ i.natAbs.log2 + 1022) (hhigh : i.natAbs.log2 ≤ k + 1000)
    (hd : d.toModel = Float.Model.pack (UnpackedFloat.normalize .binary64 i (-k) .positive)) :
    IsSigned d (if i < 0 then .negative else .positive) (nearestNat i.natAbs / 2 ^ k) := by
  rw [UnpackedFloat.normalize] at hd
  have hpos : 0 < i.natAbs := Int.natAbs_pos.2 hne
  rcases hne.lt_or_gt with hlt | hgt
  · have hnat : (-i).toNat = i.natAbs := by omega
    rw [compare_lt_iff_lt.2 hlt] at hd
    dsimp only at hd
    rw [hnat] at hd
    rw [if_pos hlt]
    exact isSigned_round hpos hlow hhigh hd
  · have hnat : i.toNat = i.natAbs := by omega
    rw [compare_gt_iff_gt.2 hgt] at hd
    dsimp only at hd
    rw [hnat] at hd
    rw [if_neg hgt.not_gt]
    exact isSigned_round hpos hlow hhigh hd

/-- A sum that is aligned to a power of two is rounded to the whole number that it is. -/
theorem hasValue_normalize {d : Float} {i : Int} {k : Nat} (hi : i.natAbs < 2 ^ 53)
    (hd : d.toModel =
      Float.Model.pack (UnpackedFloat.normalize .binary64 (i * 2 ^ k) (-k) .positive)) :
    HasValue d i := by
  rcases eq_or_ne i 0 with rfl | hne
  · rw [UnpackedFloat.normalize, zero_mul, compare_eq_iff_eq.2 rfl] at hd
    exact_mod_cast hasValue_pack_zero hd
  · have hpos : 0 < i.natAbs := Int.natAbs_pos.2 hne
    have hnat : (i * 2 ^ k).natAbs = i.natAbs * 2 ^ k := by
      rw [Int.natAbs_mul, Int.natAbs_pow]
      rfl
    have hlog := log2_mul_two_pow hpos k
    have hlt : i.natAbs.log2 < 53 := (Nat.log2_lt hpos.ne').2 hi
    have hsign : i * 2 ^ k < 0 ↔ i < 0 := by simp [mul_neg_iff]
    have hsigned := isSigned_normalize (mul_ne_zero hne (by positivity)) (by rw [hnat]; omega)
      (by rw [hnat]; omega) hd
    simp only [hsign] at hsigned
    rw [hnat, nearestNat_mul_two_pow, nearestNat_of_lt hi, Nat.cast_mul, Nat.cast_pow,
      Nat.cast_two, mul_div_cancel_right₀ _ (by positivity)] at hsigned
    exact hsigned.hasValue_int

/-! ## Whole numbers as doubles -/

/-- The ways in which a double is a whole number of at most 53 bits. -/
inductive UnpacksTo : UnpackedFloat → Int → Prop where
  | zero (sign : Sign) : UnpacksTo (.zero sign) 0
  | finite {i : Int} {m k : Nat} (sign : Sign) (h : IsNormal m (-k))
      (value : sign.apply m = i * 2 ^ k) : UnpacksTo (.finite sign m (-k) h.pos) i

theorem value_eq_apply (sign : Sign) (m : Nat) (e : Int) :
    Parts.value ⟨signBit sign, m, e⟩ = (sign.apply m : Int) * (2 : ℚ) ^ e := by
  cases sign <;> simp [Parts.value, Parts.size, signBit, Sign.apply]

theorem natAbs_apply (sign : Sign) (n : Int) : (sign.apply n).natAbs = n.natAbs := by
  cases sign <;> simp [Sign.apply]

theorem apply_mul (sign : Sign) (n k : Int) : sign.apply (n * k) = sign.apply n * k := by
  cases sign <;> simp [Sign.apply]

theorem apply_neg (sign : Sign) (n : Int) : (-sign).apply n = -sign.apply n := by
  cases sign <;> simp [Sign.apply]

/-- A whole number of at most 53 bits has no positive exponent, and not the least one. -/
theorem isNormal_of_whole {m : Nat} {e i : Int} (sign : Sign) (hm : 0 < m)
    (hcanonical : Parts.IsCanonical ⟨signBit sign, m, e⟩) (hi : i.natAbs < 2 ^ 53)
    (hvalue : (sign.apply m : Int) * (2 : ℚ) ^ e = i) :
    ∃ k : Nat, e = -k ∧ IsNormal m e ∧ sign.apply m = i * 2 ^ k := by
  obtain ⟨hlt, hlow, hnormal⟩ := hcanonical
  dsimp only at hlt hlow hnormal
  obtain ⟨k, rfl | rfl⟩ := e.eq_nat_or_neg
  · have hwhole : sign.apply m * 2 ^ k = i := by exact_mod_cast hvalue
    have habs : m * 2 ^ k = i.natAbs := by
      rw [← hwhole, Int.natAbs_mul, natAbs_apply, Int.natAbs_pow]
      rfl
    have hlarge := hnormal (by omega)
    obtain rfl : k = 0 := by
      by_contra hne
      have hpower : 2 ^ 1 ≤ 2 ^ k := Nat.pow_le_pow_right (by decide) (Nat.pos_of_ne_zero hne)
      nlinarith
    exact ⟨0, rfl, ⟨hlarge, hlt, by decide, by decide⟩, by simpa using hwhole⟩
  · have hwhole : sign.apply m = i * 2 ^ k := by
      rw [zpow_neg, zpow_natCast, ← div_eq_mul_inv, div_eq_iff (by positivity)] at hvalue
      exact_mod_cast hvalue
    have habs : m = i.natAbs * 2 ^ k := by
      rw [← Int.natAbs_natCast m, ← natAbs_apply sign, hwhole, Int.natAbs_mul, Int.natAbs_pow]
      rfl
    have hk : k < 1074 := by
      by_contra hge
      have hpower : 2 ^ 53 ≤ 2 ^ k := Nat.pow_le_pow_right (by decide) (by omega)
      have hpos : 0 < i.natAbs := Nat.pos_of_mul_pos_right (habs ▸ hm)
      nlinarith
    exact ⟨k, rfl, ⟨hnormal (by omega), hlt, by omega, by omega⟩, hwhole⟩

theorem unpacksTo_of_hasValue {d : Float} {i : Int} (hd : HasValue d i) (hi : i.natAbs < 2 ^ 53) :
    UnpacksTo d.toModel.unpack i := by
  obtain ⟨p, hp, hvalue⟩ := hd
  have hcanonical := isCanonical_of_shape hp
  rw [shape_eq] at hp
  cases hunpack : d.toModel.unpack with
  | infinity sign => rw [hunpack] at hp; cases hp
  | notANumber => rw [hunpack] at hp; cases hp
  | zero sign =>
    rw [hunpack] at hp
    cases hp
    rw [value_zero] at hvalue
    obtain rfl : i = 0 := by exact_mod_cast hvalue.symm
    exact .zero sign
  | finite sign m e hm =>
    rw [hunpack] at hp
    cases hp
    rw [value_eq_apply] at hvalue
    obtain ⟨k, rfl, hnormal, happly⟩ := isNormal_of_whole sign hm hcanonical hi hvalue
    exact .finite sign hnormal happly

theorem UnpacksTo.hasValue {u : UnpackedFloat} {i : Int} (h : UnpacksTo u i) {d : Float}
    (hd : d.toModel = Float.Model.pack u) : HasValue d i := by
  cases h with
  | zero sign => exact_mod_cast hasValue_pack_zero hd
  | @finite _ m k sign h value =>
    refine ⟨⟨signBit sign, m, -k⟩, ?_, ?_⟩
    · rw [shape_eq, hd, unpack_pack sign h, Shape.ofUnpacked]
    · rw [value_eq_apply, value, Int.cast_mul, mul_assoc]
      simp

/-! ## Sums and differences -/

theorem decreaseExponent_neg {m k larger : Nat} (h : k ≤ larger) :
    (UnpackedFloat.decreaseExponent m (-k) (-larger)).1 = m * 2 ^ (larger - k) := by
  have hamount : (-(k : Int) - -(larger : Int)).toNat = larger - k := by omega
  rw [UnpackedFloat.decreaseExponent, hamount, Nat.shiftLeft_eq]

/-- Numbers over powers of two are aligned to the higher power. -/
theorem apply_aligned {sign : Sign} {m k : Nat} {i : Int} (h : sign.apply m = i * 2 ^ k)
    {larger : Nat} (hle : k ≤ larger) :
    sign.apply ((UnpackedFloat.decreaseExponent m (-k) (-larger)).1 : Nat) = i * 2 ^ larger := by
  rw [decreaseExponent_neg hle]
  push_cast
  rw [apply_mul, h, mul_assoc, pow_mul_pow_sub 2 hle]

theorem UnpacksTo.neg {u : UnpackedFloat} {i : Int} (h : UnpacksTo u i) : UnpacksTo u.neg (-i) := by
  cases h with
  | zero sign => exact .zero (-sign)
  | finite sign h value =>
    refine .finite (-sign) h ?_
    rw [apply_neg, value, neg_mul]

/-- What is packed into a double is exact if the sum has at most 53 bits. -/
theorem UnpacksTo.add {u w : UnpackedFloat} {i j : Int} (hu : UnpacksTo u i) (hw : UnpacksTo w j)
    (hij : (i + j).natAbs < 2 ^ 53) {d : Float}
    (hd : d.toModel = Float.Model.pack (UnpackedFloat.add .binary64 u w)) :
    HasValue d (i + j : Int) := by
  cases hu with
  | zero sign =>
    rw [zero_add]
    cases hw with
    | zero sign' =>
      rw [UnpackedFloat.add] at hd
      split at hd <;> exact_mod_cast hasValue_pack_zero hd
    | finite sign' h value => exact UnpacksTo.hasValue (.finite sign' h value) hd
  | @finite _ m k sign h value =>
    cases hw with
    | zero sign' =>
      rw [add_zero]
      exact UnpacksTo.hasValue (.finite sign h value) hd
    | @finite _ m' k' sign' h' value' =>
      have hmin : min (-(k : Int)) (-k') = -(max k k' : Nat) := by omega
      rw [UnpackedFloat.add] at hd
      dsimp only at hd
      rw [hmin, apply_aligned value (le_max_left k k'), apply_aligned value' (le_max_right k k'),
        ← add_mul] at hd
      exact hasValue_normalize hij hd

theorem sub_eq_add_neg (u w : UnpackedFloat) :
    UnpackedFloat.sub .binary64 u w = UnpackedFloat.add .binary64 u w.neg := by
  cases u with
  | finite sign m e hm =>
    cases w with
    | finite sign' m' e' hm' =>
      simp only [UnpackedFloat.sub, UnpackedFloat.add, UnpackedFloat.neg, apply_neg,
        Int.sub_eq_add_neg]
    | _ => rfl
  | zero sign | infinity sign => cases w <;> rfl
  | notANumber => rfl

section Sums

variable {x y : Float} {i j : Int} (hx : HasValue x i) (hy : HasValue y j)
  (hi : i.natAbs < 2 ^ 53) (hj : j.natAbs < 2 ^ 53)

include hy hj

theorem hasValue_neg : HasValue (-y) (-j : Int) :=
  (unpacksTo_of_hasValue hy hj).neg.hasValue rfl

include hx hi

theorem hasValue_add (hij : (i + j).natAbs < 2 ^ 53) : HasValue (x + y) (i + j : Int) :=
  (unpacksTo_of_hasValue hx hi).add (unpacksTo_of_hasValue hy hj) hij rfl

theorem hasValue_sub (hij : (i - j).natAbs < 2 ^ 53) : HasValue (x - y) (i - j : Int) := by
  rw [Int.sub_eq_add_neg] at hij ⊢
  refine (unpacksTo_of_hasValue hx hi).add (unpacksTo_of_hasValue hy hj).neg hij ?_
  rw [← sub_eq_add_neg]
  rfl

end Sums

/-! ## Reading whole numbers -/

section Whole

variable {d : Float} {i : Int}

theorem HasValue.isNaN_eq_false (hd : HasValue d i) : d.isNaN = false := by
  obtain ⟨p, hp, -⟩ := hd
  rw [Bool.eq_false_iff, Ne, isNaN_iff, hp]
  nofun

/-- A whole number over the denominator of its parts. -/
theorem Parts.numerator_of_value {p : Parts} (h : p.value = i) :
    p.numerator = i.natAbs * p.denominator := by
  have hdenominator : (p.denominator : ℚ) ≠ 0 := by exact_mod_cast denominator_pos.ne'
  rw [value_eq_div, div_eq_iff hdenominator] at h
  have hsigned : p.signedNumerator = i * p.denominator := by exact_mod_cast h
  have hnumerator : p.signedNumerator.natAbs = p.numerator := by
    rw [signedNumerator]
    split <;> simp
  rw [← hnumerator, hsigned, Int.natAbs_mul, Int.natAbs_natCast]

theorem Parts.value_trunc {p : Parts} (h : p.isWhole = true) : p.value = p.trunc := by
  have hdvd : p.denominator ∣ p.numerator := Nat.dvd_of_mod_eq_zero (of_decide_eq_true h)
  have hsigned : (p.denominator : Int) ∣ p.signedNumerator := by
    rw [signedNumerator]
    split
    · exact (Int.natCast_dvd_natCast.2 hdvd).neg_right
    · exact Int.natCast_dvd_natCast.2 hdvd
  rw [value_eq_div, trunc, div_eq_iff (by exact_mod_cast denominator_pos.ne')]
  exact_mod_cast (Int.tdiv_mul_cancel hsigned).symm

theorem HasValue.isWhole_eq_true (hd : HasValue d i) : isWhole d = true := by
  obtain ⟨p, hp, hvalue⟩ := hd
  rw [isWhole, hp]
  dsimp only
  rw [Parts.isWhole, Parts.numerator_of_value hvalue, Nat.mul_mod_left, decide_eq_true rfl]

theorem HasValue.clampTo_eq (hd : HasValue d i) {low high : Int} (hlow : low ≤ i)
    (hhigh : i ≤ high) : clampTo low high d = i := by
  obtain ⟨p, hp, hvalue⟩ := hd
  rw [clampTo, hp]
  dsimp only
  rw [Parts.trunc_of_value hvalue]
  omega

theorem HasValue.toInt64_eq (hd : HasValue d i) (hi : i.natAbs < 2 ^ 53) :
    toInt64 d = Int64.ofInt i := by
  have hlow : Int64.minValue.toInt = -2 ^ 63 := rfl
  have hhigh : Int64.maxValue.toInt = 2 ^ 63 - 1 := rfl
  rw [toInt64, hd.clampTo_eq (by omega) (by omega)]

theorem HasValue.lt_iff {x y : Float} {j : Int} (hx : HasValue x i) (hy : HasValue y j) :
    x < y ↔ i < j := by
  rw [hx.float_lt_iff hy, Int.cast_lt]

theorem hasValue_natAbs (hd : HasValue d i) (hi : i.natAbs < 2 ^ 53) :
    HasValue (abs d) (i.natAbs : Int) := by
  have hneg := hasValue_neg hd hi
  obtain ⟨p, hp, hvalue⟩ := hd
  have hsign : isNegative d = p.negative := by rw [isNegative, hp]
  have hsize : 0 ≤ p.size := by
    rw [Parts.size]
    positivity
  rw [Double.abs, hsign]
  rw [Parts.value] at hvalue
  cases hnegative : p.negative with
  | true =>
    rw [hnegative, if_pos rfl] at hvalue
    have hle : i ≤ 0 := by exact_mod_cast hvalue ▸ neg_nonpos.2 hsize
    rw [if_pos rfl, Int.ofNat_natAbs_of_nonpos hle]
    exact hneg
  | false =>
    rw [hnegative, if_neg Bool.false_ne_true] at hvalue
    have hle : 0 ≤ i := by exact_mod_cast hvalue ▸ hsize
    rw [if_neg Bool.false_ne_true, Int.natAbs_of_nonneg hle]
    exact ⟨p, hp, by rw [Parts.value, hnegative, if_neg Bool.false_ne_true, hvalue]⟩

theorem hasValue_one : HasValue 1.0 (1 : Int) :=
  ⟨⟨false, 0x10000000000000, -52⟩, by decide, by norm_num [Parts.value, Parts.size]⟩

/-- The bound of whole numbers as a double. -/
theorem hasValue_wholeLimit : HasValue 1e15 (10 ^ 15 : Int) :=
  ⟨⟨false, 8000000000000000, -3⟩, by decide, by norm_num [Parts.value, Parts.size]⟩

end Whole

end SqlVerbs.Double
