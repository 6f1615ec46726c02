import Mathlib
import SqlVerbs.Double.Parts

/-!
# Comparing doubles with one

A comparison with one tells what the whole part of a double is like, so it guards casts that must
not give zero.
-/

namespace SqlVerbs.Double

open Float.Model (UnpackedFloat)
open Float.Model.UnpackedFloat (Sign)

/-! ## Shapes -/

/-- The sign bit of a sign. -/
def signBit : Sign → Bool
  | .negative => true
  | .positive => false

/-- What an unpacked double is. -/
def Shape.ofUnpacked : UnpackedFloat → Shape
  | .notANumber => .nan
  | .infinity sign => .infinite (signBit sign)
  | .zero sign => .finite ⟨signBit sign, 0, -1074⟩
  | .finite sign mantissa exponent _ => .finite ⟨signBit sign, mantissa, exponent⟩

section Fields

variable (bits : BitVec (Float.Model.Format.numBits .binary64))

open Float.Model.UnpackedFloat

theorem toNat_unpackMantissa :
    (@unpackMantissa .binary64 bits).toNat = bits.toNat % 0x10000000000000 := by
  simp [unpackMantissa]

theorem toNat_unpackExponent :
    (@unpackExponent .binary64 bits).toNat = bits.toNat / 0x10000000000000 % 0x800 := by
  simp [unpackExponent, Nat.shiftRight_eq_div_pow]

theorem signBit_unpackSign :
    signBit (.ofBitVec (@unpackSign .binary64 bits)) =
      decide (bits.toNat / 0x8000000000000000 = 1) := by
  have hsign : (@unpackSign .binary64 bits).toNat =
      bits.toNat / 0x8000000000000000 % 2 := by
    simp [unpackSign, Nat.shiftRight_eq_div_pow]
  have hbits : bits.toNat < 0x10000000000000000 := bits.isLt
  rw [Sign.ofBitVec]
  split
  · rename_i hzero
    rw [hzero] at hsign
    change 0 = _ at hsign
    symm
    rw [signBit, decide_eq_false_iff_not]
    omega
  · rename_i hone
    have hne : (@unpackSign .binary64 bits).toNat ≠ 0 :=
      fun hzero ↦ hone (BitVec.eq_of_toNat_eq hzero)
    symm
    rw [signBit, decide_eq_true_iff]
    omega

/-- The hidden bit of the mantissa. -/
theorem toNat_implicit (mantissa : BitVec 52) :
    (1#1 ++ mantissa).toNat = 0x10000000000000 + mantissa.toNat := by
  rw [BitVec.toNat_append, ← Nat.shiftLeft_add_eq_or_of_lt mantissa.isLt]
  rfl

end Fields

theorem shape_eq (d : Float) : shape d = .ofUnpacked d.toModel.unpack := by
  have hbits : d.toBits.toNat = d.toModel.toBits.toBitVec.toNat := rfl
  unfold shape Float.Model.unpack
  rw [hbits]
  generalize d.toModel.toBits.toBitVec = bits
  have hones : (@UnpackedFloat.unpackExponent .binary64 bits).toNat = 2047 ↔
      @UnpackedFloat.unpackExponent .binary64 bits = -1#_ :=
    ⟨fun h ↦ BitVec.eq_of_toNat_eq h, fun h ↦ by rw [h]; rfl⟩
  have hzeros : (@UnpackedFloat.unpackExponent .binary64 bits).toNat = 0 ↔
      @UnpackedFloat.unpackExponent .binary64 bits = 0#_ :=
    ⟨fun h ↦ BitVec.eq_of_toNat_eq h, fun h ↦ by rw [h]; rfl⟩
  have hnone : (@UnpackedFloat.unpackMantissa .binary64 bits).toNat = 0 ↔
      @UnpackedFloat.unpackMantissa .binary64 bits = 0#_ :=
    ⟨fun h ↦ BitVec.eq_of_toNat_eq h, fun h ↦ by rw [h]; rfl⟩
  dsimp only
  rw [← toNat_unpackExponent, ← toNat_unpackMantissa, ← signBit_unpackSign, UnpackedFloat.unpack]
  simp only [hones, hzeros, hnone]
  split
  · split <;> rfl
  · split
    · rename_i hexponent
      split
      · rename_i hmantissa
        rw [hnone.2 hmantissa]
        rfl
      · rw [Shape.ofUnpacked, hzeros.2 hexponent]
        rfl
    · rw [Shape.ofUnpacked, toNat_implicit]
      rfl

/-! ## Finite doubles -/

/-- The mantissa has its highest bit, unless the exponent is the least one. -/
structure Parts.IsCanonical (p : Parts) : Prop where
  mantissa_lt : p.mantissa < 0x20000000000000
  le_exponent : -1074 ≤ p.exponent
  normal : -1074 < p.exponent → 0x10000000000000 ≤ p.mantissa

theorem isCanonical_of_shape {d : Float} {p : Parts} (h : shape d = .finite p) :
    p.IsCanonical := by
  simp only [shape] at h
  split at h
  · split at h <;> cases h
  · split at h
    · cases h
      exact ⟨by dsimp only; omega, le_rfl, nofun⟩
    · rename_i hfield
      cases h
      exact ⟨by dsimp only; omega, by dsimp only; omega, fun _ ↦ by dsimp only; omega⟩

namespace Parts

variable {p : Parts}

theorem denominator_pos : 0 < p.denominator := Nat.two_pow_pos _

/-- The exponent alone decides whether a canonical double without its sign is less than one. -/
theorem numerator_lt_denominator (h : p.IsCanonical) :
    p.numerator < p.denominator ↔ p.exponent < -52 := by
  constructor
  · intro hlt
    by_contra hexponent
    have hmantissa := h.normal (by omega)
    have hpower : p.denominator ≤ 2 ^ 52 := Nat.pow_le_pow_right (by decide) (by omega)
    have hnumerator : p.mantissa ≤ p.numerator := Nat.le_mul_of_pos_right _ (Nat.two_pow_pos _)
    omega
  · intro hexponent
    have hnumerator : p.numerator = p.mantissa := by
      rw [numerator, Int.toNat_of_nonpos (by omega)]
      exact Nat.mul_one _
    have hpower : 2 ^ 53 ≤ p.denominator := Nat.pow_le_pow_right (by decide) (by omega)
    have hmantissa := h.mantissa_lt
    omega

theorem trunc_lt_one : p.trunc < 1 ↔ p.negative = true ∨ p.numerator < p.denominator := by
  rw [trunc, signedNumerator]
  split
  · rename_i hnegative
    have hle : Int.tdiv (-(p.numerator : Int)) p.denominator ≤ 0 := by
      rw [Int.neg_tdiv]
      have := Int.tdiv_nonneg (Int.natCast_nonneg p.numerator) (Int.natCast_nonneg p.denominator)
      omega
    simp only [hnegative, true_or, iff_true]
    omega
  · rename_i hpositive
    have htdiv : Int.tdiv p.numerator p.denominator = ((p.numerator / p.denominator : Nat) : Int) :=
      rfl
    rw [htdiv, Nat.cast_lt_one, Nat.div_eq_zero_iff]
    rw [or_iff_right hpositive, or_iff_right denominator_pos.ne']

end Parts

/-! ## Comparisons -/

/-- The double one. -/
def unpackedOne : UnpackedFloat := .finite .positive 0x10000000000000 (-52) (by decide)

theorem toModel_one : (1.0 : Float).toModel.unpack = unpackedOne := rfl

theorem lt_one_iff_compare (d : Float) :
    d < 1.0 ↔ d.toModel.unpack.compare unpackedOne = some .lt := by
  change decide ((d.toModel.unpack.compare (1.0 : Float).toModel.unpack == some .lt) = true) = true ↔ _
  rw [toModel_one, decide_eq_true_iff, beq_iff_eq]

theorem one_le_iff_compare (d : Float) :
    1.0 ≤ d ↔ (unpackedOne.compare d.toModel.unpack).any (·.isLE) = true := by
  change decide (((1.0 : Float).toModel.unpack.compare d.toModel.unpack).any (·.isLE) = true) =
    true ↔ _
  rw [toModel_one, decide_eq_true_iff]

/-- What is no less than one is at least one, if it is a number at all. -/
theorem one_compare {unpacked : UnpackedFloat} (h : unpacked ≠ .notANumber) :
    (unpackedOne.compare unpacked).any (·.isLE) = true ↔
      unpacked.compare unpackedOne ≠ some .lt := by
  cases unpacked with
  | notANumber => exact absurd rfl h
  | infinity sign => cases sign <;> decide
  | zero sign => cases sign <;> decide
  | finite sign mantissa exponent hpos =>
    cases sign with
    | negative => simp [unpackedOne, UnpackedFloat.compare]
    | positive =>
      simp only [unpackedOne, UnpackedFloat.compare, Option.any_some, ne_eq, Option.some.injEq,
        Ordering.isLE_iff_ne_gt, Ordering.then_eq_gt, Ordering.then_eq_lt, compare_gt_iff_gt,
        compare_lt_iff_lt, compare_eq_iff_eq]
      omega

theorem lt_one_iff {d : Float} {p : Parts} (h : shape d = .finite p) : d < 1.0 ↔ p.trunc < 1 := by
  have hcanonical := isCanonical_of_shape h
  rw [shape_eq] at h
  rw [lt_one_iff_compare, Parts.trunc_lt_one, Parts.numerator_lt_denominator hcanonical]
  generalize d.toModel.unpack = unpacked at h ⊢
  cases unpacked with
  | infinity | notANumber => cases h
  | zero sign =>
    cases h
    cases sign <;> simp [UnpackedFloat.compare, unpackedOne]
  | finite sign mantissa exponent hpos =>
    cases h
    have hnormal := hcanonical.normal
    cases sign with
    | negative => simp [UnpackedFloat.compare, unpackedOne, signBit]
    | positive =>
      simp only [UnpackedFloat.compare, unpackedOne, signBit, Option.some.injEq,
        Ordering.then_eq_lt, compare_lt_iff_lt, compare_eq_iff_eq, Bool.false_eq_true, false_or]
      dsimp only at hnormal
      omega

theorem one_le_iff_not_lt {d : Float} (h : shape d ≠ .nan) : 1.0 ≤ d ↔ ¬ d < 1.0 := by
  have hnumber : d.toModel.unpack ≠ .notANumber := by
    intro hnan
    rw [shape_eq, hnan] at h
    exact h rfl
  rw [one_le_iff_compare, lt_one_iff_compare, one_compare hnumber]

theorem one_le_of_isFinite {d : Float} (hfinite : isFinite d = true) (h : ¬ d < 1.0) :
    1.0 ≤ d := by
  refine (one_le_iff_not_lt fun hnan ↦ ?_).2 h
  rw [isFinite, hnan] at hfinite
  cases hfinite

theorem isNaN_iff {d : Float} : d.isNaN = true ↔ shape d = .nan := by
  change d.toModel.unpack.isNaN = true ↔ _
  rw [shape_eq]
  cases d.toModel.unpack <;> simp [UnpackedFloat.isNaN, Shape.ofUnpacked]

/-! ## Casts -/

/-- A double of at least one is cast to at least one, and no other is. -/
theorem one_le_clampTo {low high : Int} (hlow : low ≤ 0) (hhigh : 1 ≤ high) {d : Float} :
    1 ≤ clampTo low high d ↔ 1.0 ≤ d := by
  cases hshape : shape d with
  | finite p =>
    rw [clampTo, hshape, one_le_iff_not_lt (by rw [hshape]; nofun), lt_one_iff hshape]
    dsimp only
    omega
  | _ =>
    rw [clampTo, hshape, one_le_iff_compare]
    rw [shape_eq] at hshape
    cases hunpack : d.toModel.unpack with
    | finite | zero => simp [hunpack, Shape.ofUnpacked] at hshape
    | notANumber =>
      simp_all [Shape.ofUnpacked, unpackedOne, UnpackedFloat.compare]
    | infinity sign =>
      simp only [hunpack, Shape.ofUnpacked] at hshape
      cases sign <;> simp_all [unpackedOne, signBit, UnpackedFloat.compare] <;> omega

theorem toUnsigned_pos {d : Float} (h : 1.0 ≤ d) : 1 ≤ toUnsigned d := by
  have hclamp : 1 ≤ clampTo 0 0xffffffffffffffff d := (one_le_clampTo le_rfl (by decide)).2 h
  rw [toUnsigned]
  omega

/-- The lower bound of a cast does not matter above it. -/
theorem clampTo_eq_of_one_le {low high : Int} (hlow : low ≤ 0) (hhigh : 1 ≤ high) {d : Float}
    (h : 1.0 ≤ d) : clampTo low high d = clampTo 0 high d := by
  have hsame := (one_le_clampTo hlow hhigh).2 h
  have hzero := (one_le_clampTo le_rfl hhigh).2 h
  unfold clampTo at hsame hzero ⊢
  split at hsame
  · rfl
  · omega
  · rfl
  · omega

/-- A double that is raised to at least one is cast like its whole part. -/
theorem toUnsigned_raised {low : Int} (hlow : low ≤ 0) {d : Float} (h : d.isNaN = false) :
    (toUnsigned (if d < 1.0 then 1.0 else d) : Int) = max 1 (clampTo low 0xffffffffffffffff d) := by
  have hnumber : shape d ≠ .nan := fun hnan ↦ by
    rw [isNaN_iff.2 hnan] at h
    cases h
  by_cases hlt : d < 1.0
  · have hsmall : ¬ 1 ≤ clampTo low 0xffffffffffffffff d := by
      rw [one_le_clampTo hlow (by decide), one_le_iff_not_lt hnumber]
      exact not_not_intro hlt
    have hone : toUnsigned 1.0 = 1 := by decide
    rw [if_pos hlt, hone]
    omega
  · have hlarge : 1.0 ≤ d := (one_le_iff_not_lt hnumber).2 hlt
    have hclamp : 1 ≤ clampTo 0 0xffffffffffffffff d :=
      (one_le_clampTo le_rfl (by decide)).2 hlarge
    rw [if_neg hlt, toUnsigned, clampTo_eq_of_one_le hlow (by decide) hlarge]
    omega

end SqlVerbs.Double
