import SqlVerbs.Proofs.Double.WholeSums

/-!
# Steps of one

The distance of a number from one is a rounded difference, and its whole part says how many steps
of one fit between them. From one upward the difference is exact. Below one it may be rounded up to
one, and that is so for all numbers up to `2 ^ (-54)`.
-/

namespace SqlVerbs.Double

open Float.Model (UnpackedFloat Format)
open Float.Model.UnpackedFloat (Sign)

/-! ## Whole parts -/

namespace Parts

variable {p : Parts}

theorem floor_eq (p : Parts) : p.floor = ⌊p.value⌋ := by
  rw [floor, value_eq_div, Rat.floor_intCast_div_natCast,
    Int.fdiv_eq_ediv_of_nonneg _ (Int.natCast_nonneg _)]

theorem trunc_of_nonneg (h : 0 ≤ p.value) : p.trunc = ⌊p.value⌋ := by
  have hpos : (0 : ℚ) < p.denominator := by exact_mod_cast denominator_pos
  have hnonneg : 0 ≤ p.signedNumerator := by
    rw [value_eq_div, le_div_iff₀ hpos, zero_mul] at h
    exact_mod_cast h
  rw [trunc, value_eq_div, Rat.floor_intCast_div_natCast, Int.tdiv_eq_ediv_of_nonneg hnonneg]

end Parts

section WholePart

variable {d : Float} {x : ℚ}

theorem HasValue.toUnsigned_eq (hd : HasValue d x) (hx : 0 ≤ x) (hlt : x < 2 ^ 64) :
    toUnsigned d = ⌊x⌋₊ := by
  obtain ⟨p, hp, rfl⟩ := hd
  have hnonneg : 0 ≤ ⌊p.value⌋ := Int.floor_nonneg.2 hx
  have hle : ⌊p.value⌋ < 2 ^ 64 := Int.floor_lt.2 (by exact_mod_cast hlt)
  rw [toUnsigned, clampTo, hp]
  dsimp only
  rw [Parts.trunc_of_nonneg hx, ← Int.floor_toNat]
  omega

theorem hasValue_ofInt {i : Int} (h : i.natAbs < 2 ^ 53) : HasValue (Float.ofInt i) i := by
  rcases eq_or_ne i 0 with rfl | hne
  · exact_mod_cast hasValue_zero
  · have hsigned := isSigned_ofInt hne (h.trans (by decide))
    rw [nearestNat_of_lt h] at hsigned
    exact hsigned.hasValue_int

theorem toUnsigned_zero (negative : Bool) : toUnsigned (if negative then -0.0 else 0.0) = 0 := by
  have hzero : HasValue (if negative then -0.0 else 0.0) 0 := by
    cases negative with
    | true => exact ⟨⟨true, 0, -1074⟩, by decide, value_zero .negative⟩
    | false => exact ⟨⟨false, 0, -1074⟩, by decide, value_zero .positive⟩
  rw [hzero.toUnsigned_eq le_rfl (by norm_num), Nat.floor_zero]

/-- Rounding down first makes no difference. -/
theorem HasValue.toUnsigned_floor (hd : HasValue d x) (hx : 0 ≤ x) (hlt : x < 2 ^ 53) :
    toUnsigned (floor d) = ⌊x⌋₊ := by
  have hsame : toUnsigned d = ⌊x⌋₊ := hd.toUnsigned_eq hx (hlt.trans (by norm_num))
  obtain ⟨p, hp, rfl⟩ := hd
  rw [floor, roundBy, hp]
  dsimp only
  split
  · exact hsame
  have hfloor := p.floor_eq
  have hle : ⌊p.value⌋ < 2 ^ 53 := Int.floor_lt.2 (by exact_mod_cast hlt)
  have hnonneg : 0 ≤ ⌊p.value⌋ := Int.floor_nonneg.2 hx
  split
  · rename_i hzero
    rw [toUnsigned_zero, ← Int.floor_toNat, ← hfloor, hzero]
    rfl
  · have hvalue := hasValue_ofInt (i := p.floor) (by omega)
    rw [hvalue.toUnsigned_eq (by exact_mod_cast hfloor ▸ hnonneg)
      (by exact_mod_cast (by omega : p.floor < 2 ^ 64)), hfloor, ← Int.floor_toNat,
      ← Int.floor_toNat, Int.floor_intCast]

end WholePart

/-! ## Differences from one -/

/-- A positive number below `2 ^ 52` is a mantissa over a power of two. -/
theorem exists_unpack {d : Float} {x : ℚ} (hd : HasValue d x) (hpos : 0 < x) (hlt : x < 2 ^ 52) :
    ∃ m k : Nat, ∃ hm, d.toModel.unpack = .finite .positive m (-k) hm ∧ m < 2 ^ 53 ∧
      k ≤ 1074 ∧ x = m / 2 ^ k := by
  obtain ⟨p, hp, rfl⟩ := hd
  have hcanonical := isCanonical_of_shape hp
  rw [shape_eq] at hp
  cases hunpack : d.toModel.unpack with
  | infinity sign => rw [hunpack] at hp; cases hp
  | notANumber => rw [hunpack] at hp; cases hp
  | zero sign =>
    rw [hunpack] at hp
    cases hp
    rw [value_zero] at hpos
    exact absurd hpos (lt_irrefl 0)
  | finite sign m e hm =>
    rw [hunpack] at hp
    cases hp
    cases sign with
    | negative =>
      rw [value_negative] at hpos
      exact absurd (Parts.size_pos hm) (neg_pos.1 hpos).not_gt
    | positive =>
      obtain ⟨hmantissa, hlow, hnormal⟩ := hcanonical
      change (m : ℚ) * 2 ^ e < 2 ^ 52 at hlt
      obtain ⟨k, rfl | rfl⟩ := e.eq_nat_or_neg
      · have hlarge : 2 ^ 52 ≤ m := hnormal (by dsimp only; omega)
        have hwhole : m * 2 ^ k < 2 ^ 52 := by exact_mod_cast hlt
        exact absurd (hlarge.trans (Nat.le_mul_of_pos_right m (Nat.two_pow_pos k))) hwhole.not_ge
      · refine ⟨m, k, hm, rfl, hmantissa, by dsimp only at hlow; omega, ?_⟩
        change (m : ℚ) * 2 ^ (-(k : Int)) = m / 2 ^ k
        rw [zpow_neg, zpow_natCast, div_eq_mul_inv]

section Aligned

variable {m k larger : Nat} (hlarger : larger = max k 52)

include hlarger

theorem mul_two_pow_lt (hlt : m < 2 ^ k) : m * 2 ^ (larger - k) < 2 ^ larger := by
  rw [← pow_mul_pow_sub 2 (show k ≤ larger by omega)]
  exact Nat.mul_lt_mul_of_pos_right hlt (Nat.two_pow_pos _)

/-- The difference is not too small to have 53 bits. -/
theorem le_log2_sub_add (hmantissa : m < 2 ^ 53) :
    larger ≤ (2 ^ larger - m * 2 ^ (larger - k)).log2 + 1022 := by
  rcases le_or_gt k 1022 with hle | hgt
  · omega
  · -- Next to one, a number this small takes away less than a half.
    have hsame : larger = k := by omega
    have hhalf : 2 ^ 53 * 2 ≤ 2 ^ k := by
      rw [← Nat.pow_succ]
      exact Nat.pow_le_pow_right (by decide) (by omega)
    have hsplit : 2 ^ k = 2 ^ (k - 1) * 2 := (Nat.pow_pred_mul (by omega)).symm
    have hlarge : k - 1 ≤ (2 ^ k - m).log2 := by
      rw [Nat.le_log2 (by omega)]
      omega
    rw [hsame, Nat.sub_self, Nat.pow_zero, Nat.mul_one]
    omega

end Aligned

section Differences

variable {d one : Float} {m k larger : Nat} {hm : 0 < m}
  (hd : d.toModel.unpack = .finite .positive m (-k) hm)
  (hone : one.toModel.unpack = unpackedOne) (hlarger : larger = max k 52)

include hd hone hlarger

/-- The difference before it is rounded. -/
theorem toModel_sub_one : (d - one).toModel = Float.Model.pack
    (UnpackedFloat.normalize .binary64 ((m * 2 ^ (larger - k) : Nat) - (2 ^ larger : Nat) : Int)
      (-larger) .positive) := by
  have hmin : min (-(k : Int)) (-52) = -larger := by omega
  have hunit : (UnpackedFloat.decreaseExponent 0x10000000000000 (-(52 : Nat)) (-larger)).1 =
      2 ^ larger := by
    rw [decreaseExponent_neg (by omega)]
    exact pow_mul_pow_sub 2 (m := 52) (by omega)
  change Float.Model.pack (UnpackedFloat.sub .binary64 d.toModel.unpack one.toModel.unpack) = _
  rw [hd, hone, unpackedOne, UnpackedFloat.sub]
  dsimp only
  rw [hmin, decreaseExponent_neg (by omega)]
  change Float.Model.pack (UnpackedFloat.normalize .binary64 (((m * 2 ^ (larger - k) : Nat) : Int) -
    ((UnpackedFloat.decreaseExponent 0x10000000000000 (-(52 : Nat)) (-larger)).1 : Int))
      (-larger) .positive) = _
  rw [hunit]

/-- Above one nothing is lost. -/
theorem hasValue_abs_sub_one_of_gt (hlt : m < 2 ^ 53) (hgt : 2 ^ k < m) :
    HasValue (abs (d - one)) (m / 2 ^ k - 1) := by
  have hmodel := toModel_sub_one hd hone hlarger
  have hk : k < 53 := (Nat.pow_lt_pow_iff_right (by decide)).1 (hgt.trans hlt)
  have hle : k ≤ larger := by omega
  have hdiff : ((m * 2 ^ (larger - k) : Nat) - (2 ^ larger : Nat) : Int) =
      ((m - 2 ^ k) * 2 ^ (larger - k) : Nat) := by
    rw [← pow_mul_pow_sub 2 hle, Nat.sub_mul, Nat.cast_sub (Nat.mul_le_mul_right _ hgt.le)]
  rw [hdiff] at hmodel
  have hpos : 0 < m - 2 ^ k := by omega
  have hlog : (m - 2 ^ k).log2 < 53 := (Nat.log2_lt hpos.ne').2 ((Nat.sub_le _ _).trans_lt hlt)
  have hscaled := log2_mul_two_pow hpos (larger - k)
  have hsigned := isSigned_normalize (by positivity) (by rw [Int.natAbs_natCast]; omega)
    (by rw [Int.natAbs_natCast]; omega) hmodel
  rw [Int.natAbs_natCast, nearestNat_mul_two_pow,
    nearestNat_of_lt ((Nat.sub_le _ _).trans_lt hlt)] at hsigned
  have hvalue := hsigned.abs.hasValue
  rw [signBit, if_neg Bool.false_ne_true] at hvalue
  have hsize : (((m - 2 ^ k) * 2 ^ (larger - k) : Nat) : ℚ) / 2 ^ larger = m / 2 ^ k - 1 := by
    rw [← pow_mul_pow_sub 2 hle]
    push_cast [Nat.cast_sub hgt.le]
    field_simp
  rwa [hsize] at hvalue

/-- Below one the difference may be rounded. -/
theorem hasValue_abs_sub_one_of_lt (hmantissa : m < 2 ^ 53) (hlt : m < 2 ^ k) :
    HasValue (abs (d - one)) (nearestNat (2 ^ larger - m * 2 ^ (larger - k)) / 2 ^ larger) := by
  have hmodel := toModel_sub_one hd hone hlarger
  have hless := mul_two_pow_lt hlarger hlt
  have habs : ((m * 2 ^ (larger - k) : Nat) - (2 ^ larger : Nat) : Int).natAbs =
      2 ^ larger - m * 2 ^ (larger - k) := by omega
  have hpos : 0 < m * 2 ^ (larger - k) := Nat.mul_pos hm (Nat.two_pow_pos _)
  have hlog : (2 ^ larger - m * 2 ^ (larger - k)).log2 < larger :=
    (Nat.log2_lt (by omega)).2 (by omega)
  have hlow := le_log2_sub_add hlarger hmantissa
  have hsigned := isSigned_normalize (by omega) (by rwa [habs]) (by rw [habs]; omega) hmodel
  rw [habs] at hsigned
  have hvalue := hsigned.abs.hasValue
  rwa [signBit, if_neg Bool.false_ne_true] at hvalue

end Differences

/-! ## Whole steps -/

theorem nearestNat_two_pow (n : Nat) : nearestNat (2 ^ n) = 2 ^ n := by
  have hone : nearestNat 1 = 1 := nearestNat_of_lt (by decide)
  have h := nearestNat_mul_two_pow 1 n
  rwa [hone, Nat.one_mul] at h

theorem nearestNat_sub_le (n taken : Nat) : nearestNat (2 ^ n - taken) ≤ 2 ^ n := by
  have hmono := nearestNat_mono (Nat.sub_le (2 ^ n) taken)
  rwa [nearestNat_two_pow] at hmono

/-- What is left of one is rounded up to one if at most `2 ^ (-54)` was taken away. -/
theorem nearestNat_sub_eq_iff {n taken : Nat} (hpos : 0 < taken) (hlt : taken < 2 ^ n) :
    nearestNat (2 ^ n - taken) = 2 ^ n ↔ taken * 2 ^ 54 ≤ 2 ^ n := by
  constructor
  · intro heq
    have hnear := (nearestNat_near (2 ^ n - taken)).2
    -- Just below a power of two the units are half as wide as just above it.
    have hlog : (2 ^ n - taken).log2 < n := (Nat.log2_lt (by omega)).2 (by omega)
    have hunit : 2 * taken ≤ unit (2 ^ n - taken) := by omega
    have hlarge : 52 < (2 ^ n - taken).log2 := by
      by_contra hsmall
      rw [unit, Nat.sub_eq_zero_of_le (not_lt.1 hsmall)] at hunit
      omega
    have hpower : unit (2 ^ n - taken) * 2 ^ 53 ≤ 2 ^ n := by
      rw [unit, ← Nat.pow_add]
      exact Nat.pow_le_pow_right (by decide) (by omega)
    calc taken * 2 ^ 54 = 2 * taken * 2 ^ 53 := by ring
      _ ≤ unit (2 ^ n - taken) * 2 ^ 53 := Nat.mul_le_mul_right _ hunit
      _ ≤ 2 ^ n := hpower
  · intro hfew
    have hn : 54 ≤ n := (Nat.pow_le_pow_iff_right (by decide)).1
      ((Nat.le_mul_of_pos_left _ hpos).trans hfew)
    obtain ⟨j, rfl⟩ := Nat.exists_eq_add_of_le hn
    have htaken : taken ≤ 2 ^ j := by
      rw [Nat.pow_add, Nat.mul_comm] at hfew
      exact Nat.le_of_mul_le_mul_left hfew (by decide)
    have hmono : nearestNat ((2 ^ 54 - 1) * 2 ^ j) ≤ nearestNat (2 ^ (54 + j) - taken) := by
      refine nearestNat_mono ?_
      rw [Nat.sub_mul, ← Nat.pow_add]
      omega
    -- At one half of the last unit the tie goes to the even neighbour, which is the power of two.
    have hround : nearestNat (2 ^ 54 - 1) = 2 ^ 54 := by decide +kernel
    rw [nearestNat_mul_two_pow, hround, ← Nat.pow_add] at hmono
    exact (nearestNat_sub_le _ _).antisymm hmono

/-- No whole step fits between one and a number below it, unless the difference is rounded to one.
-/
theorem toUnsigned_floor_abs_sub_one_of_lt {d one : Float} {m k : Nat} {hm : 0 < m}
    (hd : d.toModel.unpack = .finite .positive m (-k) hm)
    (hone : one.toModel.unpack = unpackedOne) (hmantissa : m < 2 ^ 53) (hless : m < 2 ^ k) :
    toUnsigned (floor (abs (d - one))) = if (m : ℚ) / 2 ^ k * 2 ^ 54 ≤ 1 then 1 else 0 := by
  obtain ⟨larger, hlarger⟩ : ∃ larger, larger = max k 52 := ⟨_, rfl⟩
  have hfew : (m : ℚ) / 2 ^ k * 2 ^ 54 ≤ 1 ↔ m * 2 ^ (larger - k) * 2 ^ 54 ≤ 2 ^ larger := by
    rw [div_mul_eq_mul_div, div_le_one (by positivity),
      ← pow_mul_pow_sub 2 (show k ≤ larger by omega), Nat.mul_right_comm,
      Nat.mul_le_mul_right_iff (Nat.two_pow_pos _)]
    exact_mod_cast Iff.rfl
  have hvalue := hasValue_abs_sub_one_of_lt hd hone hlarger hmantissa hless
  have hle := nearestNat_sub_le larger (m * 2 ^ (larger - k))
  have hrounded := nearestNat_sub_eq_iff (Nat.mul_pos hm (Nat.two_pow_pos (larger - k)))
    (mul_two_pow_lt hlarger hless)
  generalize nearestNat (2 ^ larger - m * 2 ^ (larger - k)) = left at hvalue hle hrounded
  have hunit : (0 : ℚ) < 2 ^ larger := by positivity
  have hbound : (left : ℚ) / 2 ^ larger ≤ 1 := (div_le_one hunit).2 (by exact_mod_cast hle)
  rw [hvalue.toUnsigned_floor (by positivity) (hbound.trans_lt (by norm_num))]
  split
  · rename_i hx
    rw [hrounded.2 (hfew.1 hx), Nat.cast_pow, Nat.cast_two, div_self hunit.ne', Nat.floor_one]
  · rename_i hx
    have hlt : left < 2 ^ larger := hle.lt_of_ne (hrounded.not.2 (hfew.not.1 hx))
    rw [Nat.floor_eq_zero, div_lt_one hunit]
    exact_mod_cast hlt

/-- The whole steps between one and a positive number: none below one, except from the numbers that
are so small that nothing of them is seen next to one. -/
theorem toUnsigned_floor_abs_sub_one {d one : Float} {x : ℚ} (hd : HasValue d x)
    (hone : one.toModel.unpack = unpackedOne) (hpos : 0 < x) (hlt : x < 2 ^ 52) (hne : x ≠ 1) :
    toUnsigned (floor (abs (d - one))) = if x * 2 ^ 54 ≤ 1 then 1 else ⌊x - 1⌋₊ := by
  obtain ⟨m, k, hm, hunpack, hmantissa, hk, rfl⟩ := exists_unpack hd hpos hlt
  have hpower : (0 : ℚ) < 2 ^ k := by positivity
  rcases hne.lt_or_gt with hsmall | hlarge
  · have hless : m < 2 ^ k := by
      rw [div_lt_one hpower] at hsmall
      exact_mod_cast hsmall
    rw [toUnsigned_floor_abs_sub_one_of_lt hunpack hone hmantissa hless,
      Nat.floor_of_nonpos (sub_nonpos.2 hsmall.le)]
  · have hgt : 2 ^ k < m := by
      rw [one_lt_div hpower] at hlarge
      exact_mod_cast hlarge
    have hvalue := hasValue_abs_sub_one_of_gt hunpack hone rfl hmantissa hgt
    rw [hvalue.toUnsigned_floor (by linarith) (by linarith), if_neg (by linarith)]

end SqlVerbs.Double
