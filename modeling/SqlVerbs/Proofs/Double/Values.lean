import SqlVerbs.Local.Arithmetic
import SqlVerbs.Proofs.Double.Order

/-!
# The values of doubles

A finite double has a value, and finite doubles are in the order of their values. Every double has
as many bits as it can have, so that its exponent counts before its mantissa.
-/

namespace SqlVerbs.Double

open Float.Model (UnpackedFloat)
open Float.Model.UnpackedFloat (Sign)

namespace Parts

/-- The value without its sign. -/
def size (p : Parts) : ℚ := p.mantissa * 2 ^ p.exponent

/-- The value. -/
def value (p : Parts) : ℚ := if p.negative then -p.size else p.size

variable {p q : Parts}

theorem size_pos (h : 0 < p.mantissa) : 0 < p.size := by
  rw [size]
  positivity

theorem size_eq_div (p : Parts) : p.size = p.numerator / p.denominator := by
  have hexponent : p.exponent = p.exponent.toNat - (-p.exponent).toNat := by omega
  have hsplit : (2 : ℚ) ^ p.exponent = 2 ^ p.exponent.toNat / 2 ^ (-p.exponent).toNat := by
    conv_lhs => rw [hexponent, zpow_sub₀ two_ne_zero, zpow_natCast, zpow_natCast]
  have hnumerator : p.numerator = p.mantissa * 2 ^ p.exponent.toNat := rfl
  have hdenominator : p.denominator = 2 ^ (-p.exponent).toNat := rfl
  rw [size, hsplit, hnumerator, hdenominator]
  push_cast
  ring

theorem value_eq_div (p : Parts) : p.value = p.signedNumerator / p.denominator := by
  rw [value, size_eq_div, signedNumerator]
  split
  · push_cast
    ring
  · rfl

/-- The whole part of a whole number is the number. -/
theorem trunc_of_value {k : Int} (h : p.value = k) : p.trunc = k := by
  have hdenominator : (p.denominator : ℚ) ≠ 0 := by exact_mod_cast denominator_pos.ne'
  rw [value_eq_div, div_eq_iff hdenominator] at h
  have hnumerator : p.signedNumerator = k * p.denominator := by exact_mod_cast h
  rw [trunc, hnumerator]
  exact Int.mul_tdiv_cancel k (by exact_mod_cast denominator_pos.ne')

/-! ## The order of sizes -/

theorem size_lt_of_exponent_lt (hp : p.IsCanonical) (hq : q.IsCanonical)
    (h : p.exponent < q.exponent) : p.size < q.size := by
  have hmantissa : (p.mantissa : ℚ) < 2 ^ 53 := by exact_mod_cast hp.mantissa_lt
  have hmantissa' : (2 : ℚ) ^ 52 ≤ q.mantissa := by
    exact_mod_cast hq.normal (lt_of_le_of_lt hp.le_exponent h)
  have hpower : (2 : ℚ) ^ p.exponent * 2 ≤ 2 ^ q.exponent := by
    rw [← zpow_add_one₀ two_ne_zero]
    exact zpow_le_zpow_right₀ one_le_two h
  have hpos : (0 : ℚ) < 2 ^ p.exponent := by positivity
  calc p.size < 2 ^ 53 * 2 ^ p.exponent := mul_lt_mul_of_pos_right hmantissa hpos
    _ = 2 ^ 52 * (2 ^ p.exponent * 2) := by ring
    _ ≤ 2 ^ 52 * 2 ^ q.exponent := mul_le_mul_of_nonneg_left hpower (by positivity)
    _ ≤ q.size := mul_le_mul_of_nonneg_right hmantissa' (by positivity)

theorem size_lt_iff (hp : p.IsCanonical) (hq : q.IsCanonical) :
    p.size < q.size ↔
      p.exponent < q.exponent ∨ p.exponent = q.exponent ∧ p.mantissa < q.mantissa := by
  have hsame (heq : p.exponent = q.exponent) : p.size < q.size ↔ p.mantissa < q.mantissa := by
    rw [size, size, heq, mul_lt_mul_iff_left₀ (by positivity), Nat.cast_lt]
  rcases lt_trichotomy p.exponent q.exponent with hlt | heq | hgt
  · exact ⟨fun _ ↦ .inl hlt, fun _ ↦ size_lt_of_exponent_lt hp hq hlt⟩
  · rw [hsame heq]
    omega
  · have hsize := size_lt_of_exponent_lt hq hp hgt
    exact ⟨fun h ↦ absurd h hsize.not_gt, fun h ↦ by omega⟩

theorem compare_size (hp : p.IsCanonical) (hq : q.IsCanonical) :
    compare p.size q.size =
      (compare p.exponent q.exponent).then (compare p.mantissa q.mantissa) := by
  have hlt := size_lt_iff hp hq
  have hgt := size_lt_iff hq hp
  cases horder : compare p.size q.size with
  | lt =>
    rw [compare_lt_iff_lt, hlt] at horder
    rw [eq_comm, Ordering.then_eq_lt, compare_lt_iff_lt, compare_eq_iff_eq, compare_lt_iff_lt]
    exact horder
  | eq =>
    rw [compare_eq_iff_eq] at horder
    rw [horder] at hlt hgt
    have hnlt := hlt.not.1 (lt_irrefl _)
    have hngt := hgt.not.1 (lt_irrefl _)
    rw [eq_comm, Ordering.then_eq_eq, compare_eq_iff_eq, compare_eq_iff_eq]
    omega
  | gt =>
    rw [compare_gt_iff_gt, hgt] at horder
    rw [eq_comm, Ordering.then_eq_gt, compare_gt_iff_gt, compare_eq_iff_eq, compare_gt_iff_gt]
    omega

end Parts

/-! ## The order of doubles -/

theorem compare_neg_neg (a b : ℚ) : compare (-a) (-b) = (compare a b).swap := by
  rw [← cmp_eq_compare, ← cmp_eq_compare, cmp_swap]
  exact strictMono_id.neg.cmp_map_eq a b

theorem value_zero (sign : Sign) : Parts.value ⟨signBit sign, 0, -1074⟩ = 0 := by
  cases sign <;> simp [Parts.value, Parts.size]

theorem value_negative (m : Nat) (e : Int) :
    Parts.value ⟨signBit .negative, m, e⟩ = -Parts.size ⟨false, m, e⟩ := rfl

/-- The comparison of two finite doubles goes by their values. -/
theorem compare_unpacked {left right : UnpackedFloat} {p q : Parts}
    (hleft : Shape.ofUnpacked left = .finite p) (hright : Shape.ofUnpacked right = .finite q)
    (hp : p.IsCanonical) (hq : q.IsCanonical) :
    left.compare right = some (compare p.value q.value) := by
  have hsize := Parts.compare_size hp hq
  cases left with
  | infinity | notANumber => cases hleft
  | zero s =>
    cases hleft
    rw [value_zero]
    cases right with
    | infinity | notANumber => cases hright
    | zero t =>
      cases hright
      rw [value_zero, compare_eq_iff_eq.2 rfl]
      rfl
    | finite t n f hn =>
      cases hright
      have hpos : 0 < Parts.size ⟨false, n, f⟩ := Parts.size_pos hn
      cases t with
      | positive => exact congrArg some (compare_lt_iff_lt.2 hpos).symm
      | negative => exact congrArg some (compare_gt_iff_gt.2 (neg_lt_zero.2 hpos)).symm
  | finite s m e hm =>
    cases hleft
    have hpos : 0 < Parts.size ⟨false, m, e⟩ := Parts.size_pos hm
    cases right with
    | infinity | notANumber => cases hright
    | zero t =>
      cases hright
      rw [value_zero]
      cases s with
      | positive => exact congrArg some (compare_gt_iff_gt.2 hpos).symm
      | negative => exact congrArg some (compare_lt_iff_lt.2 (neg_lt_zero.2 hpos)).symm
    | finite t n f hn =>
      cases hright
      have hpos' : 0 < Parts.size ⟨false, n, f⟩ := Parts.size_pos hn
      cases s <;> cases t
      case positive.positive => exact congrArg some hsize.symm
      case positive.negative =>
        exact congrArg some (compare_gt_iff_gt.2 ((neg_lt_zero.2 hpos').trans hpos)).symm
      case negative.positive =>
        exact congrArg some (compare_lt_iff_lt.2 ((neg_lt_zero.2 hpos).trans hpos')).symm
      case negative.negative =>
        rw [value_negative, value_negative, compare_neg_neg]
        exact congrArg (fun order ↦ some order.swap) hsize.symm

section Order

variable {x y : Float} {p q : Parts} (hx : shape x = .finite p) (hy : shape y = .finite q)

include hx hy

theorem compare_value :
    x.toModel.unpack.compare y.toModel.unpack = some (compare p.value q.value) := by
  have hp := isCanonical_of_shape hx
  have hq := isCanonical_of_shape hy
  rw [shape_eq] at hx hy
  exact compare_unpacked hx hy hp hq

theorem lt_iff_value : x < y ↔ p.value < q.value := by
  change decide ((x.toModel.unpack.compare y.toModel.unpack == some .lt) = true) = true ↔ _
  rw [compare_value hx hy, decide_eq_true_iff, beq_iff_eq, Option.some.injEq, compare_lt_iff_lt]

theorem le_iff_value : x ≤ y ↔ p.value ≤ q.value := by
  change decide ((x.toModel.unpack.compare y.toModel.unpack).any (·.isLE) = true) = true ↔ _
  rw [compare_value hx hy, decide_eq_true_iff, Option.any_some, Ordering.isLE_iff_ne_gt,
    compare_gt_iff_gt, not_lt]

theorem beq_iff_value : (x == y) = true ↔ p.value = q.value := by
  change (x.toModel.unpack.compare y.toModel.unpack == some .eq) = true ↔ _
  rw [compare_value hx hy, beq_iff_eq, Option.some.injEq, compare_eq_iff_eq]

theorem doubleOrder_value : Local.doubleOrder x y = some (compare p.value q.value) := by
  rw [Local.doubleOrder]
  rcases lt_trichotomy p.value q.value with hlt | heq | hgt
  · rw [if_pos ((lt_iff_value hx hy).2 hlt), compare_lt_iff_lt.2 hlt]
  · rw [if_neg (by rw [lt_iff_value hx hy]; exact heq.not_lt),
      if_pos ((beq_iff_value hx hy).2 heq), compare_eq_iff_eq.2 heq]
  · rw [if_neg (by rw [lt_iff_value hx hy]; exact hgt.not_gt),
      if_neg (by rw [beq_iff_value hx hy]; exact hgt.ne'),
      if_pos ((lt_iff_value hy hx).2 hgt), compare_gt_iff_gt.2 hgt]

end Order

end SqlVerbs.Double
