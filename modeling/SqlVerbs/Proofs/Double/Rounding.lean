import SqlVerbs.Proofs.Double.Order

/-!
# Rounding to doubles

A natural number that takes more than 53 bits is rounded to the nearest multiple of a power of two,
and a half goes to the even neighbour.
-/

namespace SqlVerbs.Double

open Float.Model (UnpackedFloat Format)
open Float.Model.UnpackedFloat (Sign ExtendedMantissa)

/-! ## The nearest multiple -/

/-- How often the unit goes into the number, to the nearest whole number; a half goes to the even
neighbour. -/
def nearestQuotient (n unit : Nat) : Nat :=
  let below := n / unit
  let twice := 2 * (n % unit)
  if twice < unit then below
  else if unit < twice then below + 1
  else below + below % 2

theorem nearestQuotient_cases (n unit : Nat) :
    (nearestQuotient n unit = n / unit ∧ 2 * (n % unit) ≤ unit) ∨
      (nearestQuotient n unit = n / unit + 1 ∧ unit ≤ 2 * (n % unit)) := by
  rw [nearestQuotient]
  grind

@[simp]
theorem nearestQuotient_one (n : Nat) : nearestQuotient n 1 = n := by
  simp [nearestQuotient, Nat.mod_one]

theorem nearestQuotient_mul_right (n unit : Nat) {k : Nat} (hk : 0 < k) :
    nearestQuotient (n * k) (unit * k) = nearestQuotient n unit := by
  have htwice : 2 * (n % unit * k) = 2 * (n % unit) * k := by rw [Nat.mul_assoc]
  simp only [nearestQuotient, Nat.mul_div_mul_right _ _ hk, Nat.mul_mod_mul_right, htwice,
    Nat.mul_lt_mul_right hk]

/-- With one unit, a greater number has no smaller quotient. -/
theorem nearestQuotient_mono {m n : Nat} (h : m ≤ n) (unit : Nat) :
    nearestQuotient m unit ≤ nearestQuotient n unit := by
  have hquotient : m / unit ≤ n / unit := Nat.div_le_div_right h
  rcases hquotient.lt_or_eq with hlt | heq
  · have hm := nearestQuotient_cases m unit
    have hn := nearestQuotient_cases n unit
    omega
  · have hmod : m % unit ≤ n % unit := by
      have hm := Nat.div_add_mod m unit
      have hn := Nat.div_add_mod n unit
      rw [heq] at hm
      omega
    rw [nearestQuotient, nearestQuotient, heq]
    grind

/-! ## Shifted mantissas -/

/-- A mantissa after so many bits have been shifted out of it. -/
theorem shiftRight_mantissa (m t : Nat) :
    ((⟨m, false, false⟩ : ExtendedMantissa) >>> t) =
      ⟨m / 2 ^ t, decide (2 ^ t ≤ 2 * (m % 2 ^ t)), decide (2 * (m % 2 ^ t) % 2 ^ t ≠ 0)⟩ := by
  induction t with
  | zero => simp [HShiftRight.hShiftRight, Nat.repeat, Nat.mod_one]
  | succ t ih =>
    change ((⟨m, false, false⟩ : ExtendedMantissa) >>> t).shiftRightOne = _
    have hmod : m % 2 ^ (t + 1) = m % 2 ^ t + 2 ^ t * (m / 2 ^ t % 2) := Nat.mod_pow_succ
    have hrest : m % 2 ^ t < 2 ^ t := Nat.mod_lt _ (Nat.two_pow_pos t)
    have hsticky : 2 * (m % 2 ^ (t + 1)) % 2 ^ (t + 1) = 2 * (m % 2 ^ t) := by
      rw [hmod, Nat.mul_add, ← Nat.mul_assoc, ← Nat.pow_succ', Nat.add_mul_mod_self_left]
      exact Nat.mod_eq_of_lt (by rw [Nat.pow_succ']; omega)
    have hbelow : 2 * (m % 2 ^ t) % 2 ^ t =
        if 2 * (m % 2 ^ t) < 2 ^ t then 2 * (m % 2 ^ t) else 2 * (m % 2 ^ t) - 2 ^ t := by
      split
      · exact Nat.mod_eq_of_lt ‹_›
      · rw [Nat.mod_eq_sub_mod (by omega)]
        exact Nat.mod_eq_of_lt (by omega)
    rw [ih, ExtendedMantissa.shiftRightOne, hsticky, hbelow, hmod, ExtendedMantissa.mk.injEq]
    refine ⟨by rw [Nat.div_div_eq_div_mul, Nat.pow_succ], ?_, ?_⟩
    · rw [Nat.pow_succ']
      rcases Nat.mod_two_eq_zero_or_one (m / 2 ^ t) with hbit | hbit
      · simp [hbit]
        omega
      · simp [hbit]
    · rw [← Bool.decide_or, decide_eq_decide]
      split <;> omega

theorem roundedMantissa_shiftRight (m t : Nat) :
    ((⟨m, false, false⟩ : ExtendedMantissa) >>> t).roundedMantissa =
      nearestQuotient m (2 ^ t) := by
  have hrest : m % 2 ^ t < 2 ^ t := Nat.mod_lt _ (Nat.two_pow_pos t)
  rw [shiftRight_mantissa]
  -- The two bits say on which side of a half the rest is.
  rcases Nat.lt_trichotomy (2 * (m % 2 ^ t)) (2 ^ t) with hlt | heq | hgt
  · have hround : decide (2 ^ t ≤ 2 * (m % 2 ^ t)) = false := decide_eq_false (by omega)
    rw [hround, nearestQuotient, if_pos hlt]
    cases decide (2 * (m % 2 ^ t) % 2 ^ t ≠ 0) <;> rfl
  · have hround : decide (2 ^ t ≤ 2 * (m % 2 ^ t)) = true := decide_eq_true (by omega)
    have hsticky : decide (2 * (m % 2 ^ t) % 2 ^ t ≠ 0) = false := by
      rw [heq, Nat.mod_self]
      rfl
    rw [hround, hsticky, nearestQuotient, if_neg (by omega), if_neg (by omega)]
    rfl
  · have hround : decide (2 ^ t ≤ 2 * (m % 2 ^ t)) = true := decide_eq_true (by omega)
    have hsticky : decide (2 * (m % 2 ^ t) % 2 ^ t ≠ 0) = true := by
      rw [Nat.mod_eq_sub_mod (by omega), Nat.mod_eq_of_lt (by omega)]
      exact decide_eq_true (by omega)
    rw [hround, hsticky, nearestQuotient, if_neg (by omega), if_pos hgt]
    rfl

/-! ## Rounded doubles -/

/-- The mantissa and the exponent of a double that has all its bits. -/
structure IsNormal (m : Nat) (e : Int) : Prop where
  le_mantissa : 2 ^ 52 ≤ m
  mantissa_lt : m < 2 ^ 53
  le_exponent : -1074 ≤ e
  exponent_le : e ≤ 971

theorem IsNormal.pos {m : Nat} {e : Int} (h : IsNormal m e) : 0 < m :=
  Nat.lt_of_lt_of_le (Nat.two_pow_pos 52) h.le_mantissa

/-- A mantissa with too many bits loses the last ones, and others stay as they are. -/
theorem shiftToTargetExponent_eq {m t : Nat} {e : Int} (hlog : m.log2 = 52 + t)
    (he : -1074 ≤ e + t) :
    UnpackedFloat.shiftToTargetExponent .binary64 m e .exact =
      ((⟨m, false, false⟩ : ExtendedMantissa) >>> t, e + t) := by
  have htarget : Format.binary64.targetExponent (Float.Model.totalExponent m e) = e + t := by
    simp only [Format.targetExponent, Float.Model.totalExponent, Format.mantissaBits,
      Format.minExponent, hlog]
    omega
  have hamount : (e + t - e).toNat = t := by omega
  rw [UnpackedFloat.shiftToTargetExponent, htarget, UnpackedFloat.shiftToExponent, hamount]
  rfl

theorem nearestQuotient_bits {m t : Nat} (hlog : m.log2 = 52 + t) :
    2 ^ 52 ≤ nearestQuotient m (2 ^ t) ∧ nearestQuotient m (2 ^ t) ≤ 2 ^ 53 := by
  have hm : m ≠ 0 := by
    rintro rfl
    rw [Nat.log2_zero] at hlog
    omega
  obtain ⟨hle, hlt⟩ := (Nat.log2_eq_iff hm).1 hlog
  have hlow : 2 ^ 52 ≤ m / 2 ^ t := by
    rwa [Nat.le_div_iff_mul_le (Nat.two_pow_pos t), ← Nat.pow_add]
  have hhigh : m / 2 ^ t < 2 ^ 53 := by
    have hexponent : 53 + t = 52 + t + 1 := by omega
    rwa [Nat.div_lt_iff_lt_mul (Nat.two_pow_pos t), ← Nat.pow_add, hexponent]
  have hcases := nearestQuotient_cases m (2 ^ t)
  omega

/-- A mantissa that is long enough is rounded to 53 bits. -/
theorem roundWithAccuracy_eq {m t : Nat} {e : Int} (sign : Sign) (hlog : m.log2 = 52 + t)
    (hlow : -1074 ≤ e + t) (hhigh : e + t ≤ 970) :
    ∃ M E, ∃ h : IsNormal M E,
      UnpackedFloat.roundWithAccuracy .binary64 sign m e .exact = .finite sign M E h.pos ∧
        (M : ℚ) * 2 ^ E = nearestQuotient m (2 ^ t) * 2 ^ (e + t) := by
  obtain ⟨hle, hquotient⟩ := nearestQuotient_bits hlog
  have hrounded := roundedMantissa_shiftRight m t
  rw [UnpackedFloat.roundWithAccuracy, shiftToTargetExponent_eq hlog hlow]
  dsimp only
  rw [hrounded]
  generalize nearestQuotient m (2 ^ t) = quotient at hle hquotient
  rcases hquotient.lt_or_eq with hlt | rfl
  · have hbits : quotient.log2 = 52 + 0 := (Nat.log2_eq_iff (by omega)).2 ⟨hle, hlt⟩
    have hshift := shiftToTargetExponent_eq hbits (e := e + t) (by omega)
    rw [hshift]
    refine ⟨quotient, e + t + (0 : Nat), ⟨hle, hlt, by omega, by omega⟩, ?_, by simp⟩
    exact dif_neg (show ¬ quotient = 0 by omega)
  · have hbits : (2 ^ 53 : Nat).log2 = 52 + 1 := Nat.log2_two_pow
    have hshift := shiftToTargetExponent_eq hbits (e := e + t) (by omega)
    rw [hshift]
    refine ⟨2 ^ 52, e + t + 1, ⟨by decide, by decide, by omega, by omega⟩, ?_, ?_⟩
    · exact dif_neg (show ¬ 2 ^ 53 / 2 = 0 by decide)
    · push_cast
      rw [zpow_add₀ (by decide), zpow_add₀ (by decide)]
      ring

/-! ## Packing -/

@[simp]
theorem unpackSign_packComponents {spec : Format} {sign : Sign}
    {exponent : BitVec spec.exponentBits} {mantissa : BitVec spec.mantissaBitsWithoutImplicit} :
    UnpackedFloat.unpackSign (UnpackedFloat.packComponents spec sign exponent mantissa) =
      sign.toBitVec := by
  ext i hi
  obtain rfl : i = 0 := by omega
  simp [UnpackedFloat.unpackSign, UnpackedFloat.packComponents, BitVec.getLsbD_append,
    BitVec.getElem_append]

/-- A double with all its bits is what was packed into it. -/
theorem unpack_pack {m : Nat} {e : Int} (sign : Sign) (h : IsNormal m e) :
    (Float.Model.pack (.finite sign m e h.pos)).unpack = .finite sign m e h.pos := by
  have hle := h.le_mantissa
  have hlt := h.mantissa_lt
  obtain ⟨biased, hbiased⟩ : ∃ biased : Nat, e = biased - 1075 := ⟨(e + 1075).toNat, by
    have := h.le_exponent
    omega⟩
  have hlow : 1 ≤ biased := by
    have := h.le_exponent
    omega
  have hhigh : biased ≤ 2046 := by
    have := h.exponent_le
    omega
  have hpack : UnpackedFloat.pack .binary64 (.finite sign m e h.pos) =
      UnpackedFloat.packComponents .binary64 sign (BitVec.ofNat 11 biased) (BitVec.ofNat 52 m) := by
    have hexponent : (e + Format.binary64.exponentBias +
        Format.binary64.mantissaBitsWithoutImplicit).toNat = biased := by
      change (e + 1023 + 52).toNat = biased
      omega
    have hlog : m.log2 + 1 = Format.binary64.mantissaBits := by
      rw [(Nat.log2_eq_iff (by omega)).2 ⟨hle, hlt⟩]
      rfl
    have hfinite : ¬ 2 ^ Format.binary64.exponentBits ≤ biased + 1 := by
      change ¬ 2 ^ 11 ≤ biased + 1
      omega
    rw [UnpackedFloat.pack, hexponent, if_neg hfinite, if_pos hlog]
  have hbiasedNat : (BitVec.ofNat 11 biased).toNat = biased := Nat.mod_eq_of_lt (by omega)
  -- Neither of the exponents that stand for something else: all ones for infinity, all zeros for
  -- small numbers.
  have hones : BitVec.ofNat 11 biased ≠ -1#11 := fun hones ↦ by
    rw [hones] at hbiasedNat
    change 2047 = biased at hbiasedNat
    omega
  have hzeros : BitVec.ofNat 11 biased ≠ 0#11 := fun hzeros ↦ by
    rw [hzeros] at hbiasedNat
    change 0 = biased at hbiasedNat
    omega
  have hmantissa : (1#1 ++ BitVec.ofNat 52 m).toNat = m := by
    rw [toNat_implicit, BitVec.toNat_ofNat]
    omega
  have hsign : Sign.ofBitVec sign.toBitVec = sign := by cases sign <;> rfl
  change UnpackedFloat.unpack .binary64 (UnpackedFloat.pack .binary64 (.finite sign m e h.pos)) = _
  rw [hpack, UnpackedFloat.unpack]
  simp only [UnpackedFloat.unpackMantissa_packComponents,
    UnpackedFloat.unpackExponent_packComponents, unpackSign_packComponents, hones, hzeros, if_false,
    hmantissa, hsign, hbiasedNat]
  congr 1
  change (biased : Int) - (1023 + 52) = e
  omega

/-! ## Natural numbers -/

/-- The distance of the doubles around a number. Up to 53 bits every number is one. -/
def unit (n : Nat) : Nat := 2 ^ (n.log2 - 52)

/-- The multiple of its unit that is nearest to the number. -/
def nearestNat (n : Nat) : Nat := nearestQuotient n (unit n) * unit n

theorem nearestNat_of_lt {n : Nat} (h : n < 2 ^ 53) : nearestNat n = n := by
  have hunit : unit n = 1 := by
    rcases Nat.eq_zero_or_pos n with rfl | hpos
    · rfl
    · have hlog := (Nat.log2_lt hpos.ne').2 h
      rw [unit, Nat.sub_eq_zero_of_le (by omega), Nat.pow_zero]
  rw [nearestNat, hunit, nearestQuotient_one, Nat.mul_one]

/-- A double that has all its bits, of this sign and size. -/
def IsSigned (d : Float) (sign : Sign) (size : ℚ) : Prop :=
  ∃ m e, ∃ h : IsNormal m e, d.toModel.unpack = .finite sign m e h.pos ∧ (m : ℚ) * 2 ^ e = size

theorem IsSigned.neg {d : Float} {sign : Sign} {size : ℚ} (hd : IsSigned d sign size) :
    IsSigned (-d) (-sign) size := by
  obtain ⟨m, e, hnormal, hunpack, hsize⟩ := hd
  refine ⟨m, e, hnormal, ?_, hsize⟩
  change (Float.Model.pack d.toModel.unpack.neg).unpack = _
  rw [hunpack]
  exact unpack_pack (-sign) hnormal

theorem isSigned_of_rounded {d : Float} {sign : Sign} {m t : Nat} {e : Int} {size : ℚ}
    (hd : d.toModel = Float.Model.pack (UnpackedFloat.roundWithAccuracy .binary64 sign m e .exact))
    (hlog : m.log2 = 52 + t) (hlow : -1074 ≤ e + t) (hhigh : e + t ≤ 970)
    (hsize : nearestQuotient m (2 ^ t) * (2 : ℚ) ^ (e + t) = size) : IsSigned d sign size := by
  obtain ⟨M, E, hnormal, hrounded, hM⟩ := roundWithAccuracy_eq sign hlog hlow hhigh
  refine ⟨M, E, hnormal, ?_, hM.trans hsize⟩
  rw [hd, hrounded, unpack_pack sign hnormal]

theorem log2_mul_two_pow {n : Nat} (hpos : 0 < n) (k : Nat) : (n * 2 ^ k).log2 = n.log2 + k := by
  obtain ⟨hle, hlt⟩ := (Nat.log2_eq_iff hpos.ne').1 rfl
  have hscaled : n * 2 ^ k ≠ 0 := Nat.mul_ne_zero hpos.ne' (Nat.two_pow_pos k).ne'
  refine (Nat.log2_eq_iff hscaled).2 ⟨?_, ?_⟩
  · rw [Nat.pow_add]
    exact Nat.mul_le_mul_right _ hle
  · rw [Nat.add_right_comm, Nat.pow_add]
    exact Nat.mul_lt_mul_of_pos_right hlt (Nat.two_pow_pos k)

/-- A number of at most 53 bits is moved up to 53 bits and not rounded. -/
theorem isSigned_toFloat {n : Nat} (hpos : 0 < n) (hlt : n < 2 ^ 53) :
    IsSigned n.toUInt64.toFloat .positive n := by
  have hlog : n.log2 < 53 := (Nat.log2_lt hpos.ne').2 hlt
  obtain ⟨k, hk⟩ : ∃ k, k + n.log2 = 52 := ⟨52 - n.log2, by omega⟩
  have hbits : (n * 2 ^ k).log2 = 52 + 0 := by
    rw [log2_mul_two_pow hpos]
    omega
  have hmodel : n.toUInt64.toFloat.toModel = Float.Model.pack
      (UnpackedFloat.roundWithAccuracy .binary64 .positive (n * 2 ^ k) (0 - k) .exact) := by
    have htarget : Format.binary64.targetExponent (Float.Model.totalExponent n 0) = -k := by
      simp only [Format.targetExponent, Float.Model.totalExponent, Format.mantissaBits,
        Format.minExponent]
      omega
    have hnat : n.toUInt64.toNat = n := Nat.mod_eq_of_lt (by omega)
    have hsign : compare (n : Int) 0 = .gt := compare_gt_iff_gt.2 (by omega)
    have hamount : (0 - -(k : Int)).toNat = k := by omega
    change Float.Model.pack (UnpackedFloat.normalize .binary64 (n.toUInt64.toNat : Int) 0 _) = _
    rw [hnat, UnpackedFloat.normalize, hsign]
    dsimp only
    rw [UnpackedFloat.round, Int.toNat_natCast, htarget, UnpackedFloat.decreaseExponent, hamount,
      Nat.shiftLeft_eq]
  refine isSigned_of_rounded hmodel hbits (by omega) (by omega) ?_
  rw [Nat.pow_zero, nearestQuotient_one]
  push_cast
  rw [mul_assoc, zero_sub, zpow_add₀ (by decide)]
  simp

/-- The product with one is the number itself. -/
theorem isSigned_mul_one {d one : Float} {size : ℚ} (hd : IsSigned d .positive size)
    (hsize : size < 2 ^ 53) (hone : one.toModel.unpack = unpackedOne) :
    IsSigned (d * one) .positive size := by
  obtain ⟨m, e, hnormal, hunpack, rfl⟩ := hd
  have hexponent : e < 1 := by
    by_contra hlarge
    have hmantissa : (2 : ℚ) ^ 52 ≤ m := by exact_mod_cast hnormal.le_mantissa
    have hpower : (2 : ℚ) ^ (1 : Int) ≤ 2 ^ e := zpow_le_zpow_right₀ (by norm_num) (by omega)
    rw [zpow_one] at hpower
    nlinarith
  have hbits : (m * 2 ^ 52).log2 = 52 + 52 := by
    rw [log2_mul_two_pow hnormal.pos,
      (Nat.log2_eq_iff hnormal.pos.ne').2 ⟨hnormal.le_mantissa, hnormal.mantissa_lt⟩]
  have hlow := hnormal.le_exponent
  refine isSigned_of_rounded (m := m * 2 ^ 52) (e := e + -52) (t := 52) ?_ hbits (by omega)
    (by omega) ?_
  · change Float.Model.pack
      (UnpackedFloat.mul .binary64 d.toModel.unpack one.toModel.unpack) = _
    rw [hunpack, hone]
    rfl
  · have hquotient := nearestQuotient_mul_right m 1 (Nat.two_pow_pos 52)
    rw [Nat.one_mul, nearestQuotient_one] at hquotient
    rw [hquotient]
    simp

theorem isSigned_ofNat {n : Nat} (hpos : 0 < n) (hlt : n < 2 ^ 64) :
    IsSigned (Float.ofNat n) .positive (nearestNat n) := by
  change IsSigned (Float.ofScientific n false 0) .positive _
  rw [Float.ofScientific]
  split
  -- Below the limit the number is converted exactly and multiplied by one.
  · rename_i hsmall
    rw [nearestNat_of_lt hsmall.1]
    refine isSigned_mul_one (isSigned_toFloat hpos hsmall.1) (by exact_mod_cast hsmall.1) ?_
    change (Float.ofBits 0x3FF0000000000000).toModel.unpack = unpackedOne
    rfl
  -- Above it, `n * 2 ^ 53` is rounded to 53 bits, which rounds `n` to its units.
  · rename_i hlarge
    have hlog : 53 ≤ n.log2 := (Nat.le_log2 hpos.ne').2 (by omega)
    have hlog' : n.log2 < 64 := (Nat.log2_lt hpos.ne').2 hlt
    have hbits : (n * 2 ^ 53).log2 = 52 + (n.log2 + 1) := by
      rw [log2_mul_two_pow hpos]
      omega
    have hunit : 2 ^ (n.log2 + 1) = unit n * 2 ^ 53 := by
      rw [unit, ← Nat.pow_add]
      congr 1
      omega
    refine isSigned_of_rounded (m := n * 2 ^ 53) (e := -53) (t := n.log2 + 1) ?_ hbits (by omega)
      (by omega) ?_
    · change Float.Model.pack (UnpackedFloat.ofScientific .binary64 n 0) = _
      have hlarge : ¬ (0 : Int) > 2 ^ Format.binary64.exponentBits := by decide
      have hsmall : ¬ (0 : Int) < -((2 ^ Format.binary64.exponentBits : Int) + n.log2) := by
        change ¬ (0 : Int) < -((2 ^ 11 : Int) + n.log2)
        omega
      rw [UnpackedFloat.ofScientific, dif_neg hpos.ne', if_neg hlarge, if_neg hsmall,
        if_pos (le_refl 0)]
      change Float.Model.pack (UnpackedFloat.roundWithAccuracy .binary64 .positive
        ((n <<< 53) * 1) (-53 + 0) .exact) = _
      rw [Nat.shiftLeft_eq, Nat.mul_one]
      rfl
    · have hexponent : -53 + ((n.log2 + 1 : Nat) : Int) = (n.log2 - 52 : Nat) := by omega
      rw [hunit, nearestQuotient_mul_right _ _ (Nat.two_pow_pos 53), nearestNat, unit, hexponent,
        zpow_natCast]
      push_cast
      rfl

end SqlVerbs.Double
