import SqlVerbs.Double.Shortest
import SqlVerbs.Proofs.Double.Values

/-!
# The nearest double

The doubles around a finite double are one unit away, except that below a power of two they are
closer. So a number is read as the double whenever it is in the interval that the printer looks at,
and everything the printer takes is in that interval.
-/

namespace SqlVerbs.Double

namespace Parts

variable {p q : Parts}

/-! ## The doubles around a double -/

theorem eq_of_size_eq (hp : p.IsCanonical) (hq : q.IsCanonical) (h : p.size = q.size) :
    p.mantissa = q.mantissa ∧ p.exponent = q.exponent := by
  have hlt := (size_lt_iff hp hq).not.1 h.not_lt
  have hgt := (size_lt_iff hq hp).not.1 h.not_gt
  omega

theorem size_eq_zero : p.size = 0 ↔ p.mantissa = 0 := by
  have hpower : (2 : ℚ) ^ p.exponent ≠ 0 := zpow_ne_zero _ two_ne_zero
  rw [size, mul_eq_zero, or_iff_left hpower, Nat.cast_eq_zero]

/-- The next double is at least one unit above. -/
theorem size_add_le (hp : p.IsCanonical) (hq : q.IsCanonical) (h : p.size < q.size) :
    p.size + 2 ^ p.exponent ≤ q.size := by
  rcases (size_lt_iff hp hq).1 h with hexponent | ⟨hexponent, hmantissa⟩
  · have hlarge : (p.mantissa : ℚ) + 1 ≤ 2 ^ 53 := by exact_mod_cast hp.mantissa_lt
    have hnormal : (2 : ℚ) ^ 52 ≤ q.mantissa := by
      exact_mod_cast hq.normal (hp.le_exponent.trans_lt hexponent)
    have hpower : (2 : ℚ) * 2 ^ p.exponent ≤ 2 ^ q.exponent := by
      rw [← zpow_one_add₀ two_ne_zero]
      exact zpow_le_zpow_right₀ one_le_two (by omega)
    calc p.size + 2 ^ p.exponent = (p.mantissa + 1) * 2 ^ p.exponent := by rw [size]; ring
      _ ≤ 2 ^ 53 * 2 ^ p.exponent := mul_le_mul_of_nonneg_right hlarge (by positivity)
      _ = 2 ^ 52 * (2 * 2 ^ p.exponent) := by ring
      _ ≤ 2 ^ 52 * 2 ^ q.exponent := mul_le_mul_of_nonneg_left hpower (by positivity)
      _ ≤ q.size := mul_le_mul_of_nonneg_right hnormal (by positivity)
  · have hnext : (p.mantissa : ℚ) + 1 ≤ q.mantissa := by exact_mod_cast hmantissa
    calc p.size + 2 ^ p.exponent = (p.mantissa + 1) * 2 ^ p.exponent := by rw [size]; ring
      _ ≤ q.mantissa * 2 ^ p.exponent := mul_le_mul_of_nonneg_right hnext (by positivity)
      _ = q.size := by rw [size, hexponent]

/-- The distance to the doubles below, which are closer to a power of two. -/
def unitBelow (p : Parts) : ℚ :=
  if p.mantissa = 0x10000000000000 ∧ -1074 < p.exponent then 2 ^ (p.exponent - 1)
  else 2 ^ p.exponent

theorem size_add_unitBelow_le (hp : p.IsCanonical) (hq : q.IsCanonical) (h : q.size < p.size) :
    q.size + p.unitBelow ≤ p.size := by
  -- Either the exponent of `q` is smaller, and the units of `q` are at most half as wide, or both
  -- exponents are equal and the mantissas decide.
  rcases (size_lt_iff hq hp).1 h with hexponent | ⟨hexponent, -⟩
  · have hlow := hq.le_exponent.trans_lt hexponent
    have hlarge : (q.mantissa : ℚ) + 1 ≤ 2 ^ 53 := by exact_mod_cast hq.mantissa_lt
    have hpower : (2 : ℚ) ^ q.exponent ≤ 2 ^ (p.exponent - 1) :=
      zpow_le_zpow_right₀ one_le_two (by omega)
    have hhalf : (2 : ℚ) * 2 ^ (p.exponent - 1) = 2 ^ p.exponent := by
      rw [← zpow_one_add₀ two_ne_zero, add_sub_cancel]
    have hsize : q.size + 2 ^ (p.exponent - 1) ≤ 2 ^ 53 * 2 ^ (p.exponent - 1) := by
      have hle : q.size ≤ q.mantissa * 2 ^ (p.exponent - 1) :=
        mul_le_mul_of_nonneg_left hpower (Nat.cast_nonneg _)
      nlinarith [hlarge, show (0 : ℚ) < 2 ^ (p.exponent - 1) by positivity]
    rw [unitBelow]
    split
    · rename_i hlowest
      calc q.size + 2 ^ (p.exponent - 1) ≤ 2 ^ 53 * 2 ^ (p.exponent - 1) := hsize
        _ = 2 ^ 52 * 2 ^ p.exponent := by rw [← hhalf]; ring
        _ = p.size := by rw [size, hlowest.1]; norm_num
    · rename_i hlowest
      have hnormal := hp.normal hlow
      have hnext : 0x10000000000000 + 1 ≤ p.mantissa :=
        Nat.lt_of_le_of_ne hnormal fun heq ↦ hlowest ⟨heq.symm, hlow⟩
      have hmantissa : (2 : ℚ) ^ 52 + 1 ≤ p.mantissa := by exact_mod_cast hnext
      have hsize' : (2 ^ 52 + 1) * 2 ^ p.exponent ≤ p.size :=
        mul_le_mul_of_nonneg_right hmantissa (by positivity)
      have hpos : (0 : ℚ) < 2 ^ (p.exponent - 1) := by positivity
      linarith
  · have hunit : p.unitBelow ≤ 2 ^ p.exponent := by
      rw [unitBelow]
      split
      · exact zpow_le_zpow_right₀ one_le_two (by omega)
      · exact le_rfl
    have hadd := size_add_le hq hp h
    rw [hexponent] at hadd
    linarith

/-! ## The nearest one -/

/-- No double is nearer to the number, not even beyond the largest one, and another one that is as
near has an odd mantissa. -/
structure IsNearest (p : Parts) (x : ℚ) : Prop where
  le : ∀ q : Parts, q.IsCanonical → |x - p.size| ≤ |x - q.size|
  even : ∀ q : Parts, q.IsCanonical → |x - q.size| = |x - p.size| → q.size ≠ p.size →
    p.mantissa % 2 = 0

theorem isNearest_size (p : Parts) : p.IsNearest p.size where
  le q _ := by
    rw [sub_self, abs_zero]
    exact abs_nonneg _
  even q _ heq hne := by
    rw [sub_self, abs_zero, abs_eq_zero, sub_eq_zero] at heq
    exact absurd heq.symm hne

section Near

variable {x : ℚ} (hp : p.IsCanonical)

include hp

/-- No other double is nearer than the one that lies within half of the way to its neighbours. -/
theorem abs_sub_le_of_near (habove : 2 * (x - p.size) ≤ 2 ^ p.exponent)
    (hbelow : 2 * (p.size - x) ≤ p.unitBelow) (hq : q.IsCanonical) (hne : q.size ≠ p.size) :
    |x - p.size| ≤ |x - q.size| := by
  rcases hne.lt_or_gt with hlt | hgt
  · have hgap := size_add_unitBelow_le hp hq hlt
    have habs := le_abs_self (x - q.size)
    exact abs_le.2 ⟨by linarith, by linarith⟩
  · have hgap := size_add_le hp hq hgt
    have habs := neg_le_abs (x - q.size)
    exact abs_le.2 ⟨by linarith, by linarith⟩

theorem abs_sub_lt_of_near (habove : 2 * (x - p.size) < 2 ^ p.exponent)
    (hbelow : 2 * (p.size - x) < p.unitBelow) (hq : q.IsCanonical) (hne : q.size ≠ p.size) :
    |x - p.size| < |x - q.size| := by
  rcases hne.lt_or_gt with hlt | hgt
  · have hgap := size_add_unitBelow_le hp hq hlt
    have habs := le_abs_self (x - q.size)
    exact abs_lt.2 ⟨by linarith, by linarith⟩
  · have hgap := size_add_le hp hq hgt
    have habs := neg_le_abs (x - q.size)
    exact abs_lt.2 ⟨by linarith, by linarith⟩

/-- The way to the neighbours is closed for an even mantissa and open for an odd one. -/
theorem isNearest_of_near (habove : 2 * (x - p.size) ≤ 2 ^ p.exponent)
    (hbelow : 2 * (p.size - x) ≤ p.unitBelow)
    (hodd : p.mantissa % 2 ≠ 0 →
      2 * (x - p.size) < 2 ^ p.exponent ∧ 2 * (p.size - x) < p.unitBelow) :
    p.IsNearest x where
  le q hq := by
    rcases eq_or_ne q.size p.size with heq | hne
    · rw [heq]
    · exact abs_sub_le_of_near hp habove hbelow hq hne
  even q hq heq hne := by
    by_contra h
    obtain ⟨habove', hbelow'⟩ := hodd h
    exact (abs_sub_lt_of_near hp habove' hbelow' hq hne).ne' heq

/-- The next double above one with an even mantissa. -/
theorem isCanonical_next (heven : p.mantissa % 2 = 0) :
    Parts.IsCanonical ⟨false, p.mantissa + 1, p.exponent⟩ where
  mantissa_lt := by
    have hlt := hp.mantissa_lt
    dsimp only
    omega
  le_exponent := hp.le_exponent
  normal h := (hp.normal h).trans (Nat.le_succ _)

/-- Two doubles with even mantissas are never equally near: the one between is nearer. -/
theorem IsNearest.not_size_lt (hq : q.IsCanonical) (hpx : p.IsNearest x) (hqx : q.IsNearest x) :
    ¬ p.size < q.size := by
  intro hlt
  have hdist : |x - q.size| = |x - p.size| := (hqx.le p hp).antisymm (hpx.le q hq)
  have heven := hpx.even q hq hdist hlt.ne'
  have heven' := hqx.even p hp hdist.symm hlt.ne
  have hnext := isCanonical_next hp heven
  have hsize : Parts.size ⟨false, p.mantissa + 1, p.exponent⟩ = p.size + 2 ^ p.exponent := by
    rw [size, size]
    push_cast
    ring
  have hpos : (0 : ℚ) < 2 ^ p.exponent := by positivity
  have hmiddle : x - p.size = q.size - x := by
    rcases abs_eq_abs.1 hdist with h | h
    · linarith
    · linarith
  have hself : |x - p.size| = x - p.size := abs_of_pos (by linarith)
  have hle := size_add_le hp hq hlt
  rcases hle.lt_or_eq with hbetween | hadjacent
  · -- Strictly between the two, so nearer to the middle than they are.
    have hnearer : |x - (p.size + 2 ^ p.exponent)| < |x - p.size| := by
      rw [hself]
      exact abs_lt.2 ⟨by linarith, by linarith⟩
    have hle := hpx.le _ hnext
    rw [hsize] at hle
    exact hle.not_gt hnearer
  · rw [← hsize] at hadjacent
    obtain ⟨hmantissa, -⟩ := eq_of_size_eq hnext hq hadjacent
    dsimp only at hmantissa
    omega

theorem IsNearest.size_eq (hq : q.IsCanonical) (hpx : p.IsNearest x) (hqx : q.IsNearest x) :
    p.size = q.size :=
  le_antisymm (not_lt.1 (hqx.not_size_lt hq hp hpx)) (not_lt.1 (hpx.not_size_lt hp hq hqx))

end Near

/-- Only zero is nearest to zero. -/
theorem IsNearest.mantissa_eq_zero (h : p.IsNearest 0) : p.mantissa = 0 := by
  have hzero : Parts.size ⟨false, 0, -1074⟩ = 0 := size_eq_zero.2 rfl
  have hle := h.le ⟨false, 0, -1074⟩ ⟨by decide, le_rfl, nofun⟩
  rw [hzero, sub_zero, abs_zero, zero_sub, abs_neg] at hle
  exact size_eq_zero.1 (abs_nonpos_iff.1 hle)

end Parts

/-! ## Exact decimals -/

namespace Decimal

/-- The value of a decimal. -/
def value (d : Decimal) : ℚ := d.digits * 10 ^ d.power

/-- Both sides of a comparison have this factor. -/
def commonFactor (d : Decimal) (exponent : Int) : ℚ :=
  10 ^ (-d.power).toNat * 2 ^ (-exponent).toNat

variable {d : Decimal} {e : Int} {n : Nat}

theorem commonFactor_pos : 0 < d.commonFactor e := by
  rw [commonFactor]
  positivity

/-- A power with an exponent of either sign, as a quotient of powers. -/
theorem zpow_mul_pow_neg {b : ℚ} (hb : b ≠ 0) (i : Int) :
    b ^ i * b ^ (-i).toNat = b ^ i.toNat := by
  rw [← zpow_natCast, ← zpow_natCast, ← zpow_add₀ hb]
  congr 1
  omega

theorem leftSide_eq : (d.leftSide e : ℚ) = d.value * d.commonFactor e := by
  have hpower := zpow_mul_pow_neg (b := 10) (by norm_num) d.power
  have hleft : d.leftSide e = d.digits * 10 ^ d.power.toNat * 2 ^ (-e).toNat := rfl
  rw [hleft, value, commonFactor]
  push_cast
  rw [← hpower]
  ring

theorem rightSide_eq : (d.rightSide n e : ℚ) = n * 2 ^ e * d.commonFactor e := by
  have hpower := zpow_mul_pow_neg (b := 2) two_ne_zero e
  have hright : d.rightSide n e = n * 2 ^ e.toNat * 10 ^ (-d.power).toNat := rfl
  rw [hright, commonFactor]
  push_cast
  rw [← hpower]
  ring

theorem leftSide_le_iff : d.leftSide e ≤ d.rightSide n e ↔ d.value ≤ n * 2 ^ e := by
  rw [← Nat.cast_le (α := ℚ), leftSide_eq, rightSide_eq, mul_le_mul_iff_left₀ commonFactor_pos]

theorem le_leftSide_iff : d.rightSide n e ≤ d.leftSide e ↔ n * 2 ^ e ≤ d.value := by
  rw [← Nat.cast_le (α := ℚ), leftSide_eq, rightSide_eq, mul_le_mul_iff_left₀ commonFactor_pos]

theorem leftSide_lt_iff : d.leftSide e < d.rightSide n e ↔ d.value < n * 2 ^ e := by
  rw [← Nat.cast_lt (α := ℚ), leftSide_eq, rightSide_eq, mul_lt_mul_iff_left₀ commonFactor_pos]

theorem lt_leftSide_iff : d.rightSide n e < d.leftSide e ↔ n * 2 ^ e < d.value := by
  rw [← Nat.cast_lt (α := ℚ), leftSide_eq, rightSide_eq, mul_lt_mul_iff_left₀ commonFactor_pos]

end Decimal

/-! ## The interval that reads back -/

section Interval

variable {p : Parts}

theorem high_ofParts (p : Parts) :
    ((ReadInterval.ofParts p).high : ℚ) * 2 ^ (ReadInterval.ofParts p).exponent =
      p.size + 2 ^ p.exponent / 2 := by
  have hpower : (2 : ℚ) ^ (p.exponent - 2) = 2 ^ p.exponent / 4 := by
    rw [zpow_sub₀ two_ne_zero]
    norm_num
  simp only [ReadInterval.ofParts]
  rw [hpower, Parts.size]
  push_cast
  ring

theorem low_ofParts (hm : 0 < p.mantissa) :
    ((ReadInterval.ofParts p).low : ℚ) * 2 ^ (ReadInterval.ofParts p).exponent =
      p.size - p.unitBelow / 2 := by
  have hpower : (2 : ℚ) ^ (p.exponent - 2) = 2 ^ p.exponent / 4 := by
    rw [zpow_sub₀ two_ne_zero]
    norm_num
  have hhalf : (2 : ℚ) ^ (p.exponent - 1) = 2 ^ p.exponent / 2 := by
    rw [zpow_sub₀ two_ne_zero, zpow_one]
  simp only [ReadInterval.ofParts]
  rw [hpower, Parts.size, Parts.unitBelow]
  by_cases hlowest : p.mantissa = 0x10000000000000 ∧ -1074 < p.exponent
  · rw [if_pos hlowest, if_pos hlowest, hhalf, Nat.cast_sub (by omega)]
    push_cast
    ring
  · rw [if_neg hlowest, if_neg hlowest, Nat.cast_sub (by omega)]
    push_cast
    ring

/-- What the printer's test accepts is read as the double. -/
theorem isNearest_of_holds (hp : p.IsCanonical) (hm : 0 < p.mantissa) {d : Decimal}
    (h : (ReadInterval.ofParts p).holds d = true) : p.IsNearest d.value := by
  simp only [ReadInterval.holds] at h
  split at h
  · rename_i hclosed
    rw [decide_eq_true_iff, Decimal.le_leftSide_iff, Decimal.leftSide_le_iff, low_ofParts hm,
      high_ofParts] at h
    have heven : p.mantissa % 2 = 0 := of_decide_eq_true hclosed
    exact Parts.isNearest_of_near hp (by linarith) (by linarith) fun hodd ↦ absurd heven hodd
  · rw [decide_eq_true_iff, Decimal.lt_leftSide_iff, Decimal.leftSide_lt_iff, low_ofParts hm,
      high_ofParts] at h
    exact Parts.isNearest_of_near hp (by linarith) (by linarith)
      fun _ ↦ ⟨by linarith, by linarith⟩

theorem isNearest_onGrid (hp : p.IsCanonical) (hm : 0 < p.mantissa) {tie : Tie} {power : Int}
    {d : Decimal} (h : p.onGrid tie power = some d) : p.IsNearest d.value := by
  simp only [Parts.onGrid] at h
  split at h
  · rename_i hbelow
    split at h
    · rename_i habove
      cases h
      exact isNearest_of_holds hp hm habove.1
    · cases h
      exact isNearest_of_holds hp hm hbelow
  · split at h
    · rename_i habove
      cases h
      exact isNearest_of_holds hp hm habove
    · cases h

theorem value_exact (p : Parts) :
    Decimal.value ⟨p.numerator * Nat.pow 5 (-p.exponent).toNat, min p.exponent 0⟩ = p.size := by
  have hpower : (10 : ℚ) ^ min p.exponent 0 =
      (5 ^ (-p.exponent).toNat)⁻¹ * (p.denominator : ℚ)⁻¹ := by
    have hexponent : min p.exponent 0 = -((-p.exponent).toNat : Int) := by omega
    have hdenominator : (p.denominator : ℚ) = 2 ^ (-p.exponent).toNat := by
      exact_mod_cast (rfl : p.denominator = 2 ^ (-p.exponent).toNat)
    rw [hexponent, zpow_neg, zpow_natCast, hdenominator, ← mul_inv, ← mul_pow]
    norm_num
  have hfive : (Nat.pow 5 (-p.exponent).toNat : ℚ) = 5 ^ (-p.exponent).toNat := by
    exact_mod_cast (rfl : Nat.pow 5 (-p.exponent).toNat = 5 ^ (-p.exponent).toNat)
  rw [Decimal.value, hpower, Parts.size_eq_div]
  push_cast
  rw [hfive]
  field_simp

theorem isNearest_shortestFrom (hp : p.IsCanonical) (hm : 0 < p.mantissa) (tie : Tie)
    (magnitude : Int) (widths : List Nat) :
    p.IsNearest (p.shortestFrom tie magnitude widths).value := by
  induction widths with
  | nil =>
    rw [Parts.shortestFrom, value_exact]
    exact p.isNearest_size
  | cons width wider ih =>
    rw [Parts.shortestFrom]
    split
    · rename_i d hgrid
      exact isNearest_onGrid hp hm hgrid
    · exact ih

theorem value_stripZeros (fuel : Nat) (d : Decimal) : (d.stripZeros fuel).value = d.value := by
  fun_induction Decimal.stripZeros fuel d with
  | case1 => rfl
  | case2 fuel d hzero ih =>
    have hdigits : (d.digits : ℚ) = 10 * (d.digits / 10 : Nat) := by
      exact_mod_cast (Nat.mul_div_cancel' (Nat.dvd_of_mod_eq_zero hzero.2)).symm
    rw [ih, Decimal.value, Decimal.value, hdigits, zpow_add_one₀ (by norm_num)]
    ring
  | case3 => rfl

/-- The printed digits are read as the double. -/
theorem isNearest_shortest (hp : p.IsCanonical) (tie : Tie) :
    p.IsNearest (p.shortest tie).value := by
  rw [Parts.shortest]
  split
  · rename_i hzero
    have hsize : Decimal.value ⟨0, 0⟩ = p.size := by simp [Decimal.value, Parts.size, hzero]
    rw [hsize]
    exact p.isNearest_size
  · rename_i hm
    rw [value_stripZeros]
    exact isNearest_shortestFrom hp (Nat.pos_of_ne_zero hm) tie _ _

theorem value_shortest_eq_zero (hp : p.IsCanonical) (tie : Tie) :
    (p.shortest tie).value = 0 ↔ p.mantissa = 0 := by
  constructor
  · intro hzero
    have hnearest := isNearest_shortest hp tie
    rw [hzero] at hnearest
    exact hnearest.mantissa_eq_zero
  · intro hzero
    rw [Parts.shortest, if_pos hzero, Decimal.value, Nat.cast_zero, zero_mul]

end Interval

/-! ## Rounded numbers -/

/-- The bits of a finite double are its parts side by side. -/
theorem toBits_of_shape {d : Float} {p : Parts} (h : shape d = .finite p) :
    d.toBits.toNat = (if p.negative then 0x8000000000000000 else 0) +
      (if p.mantissa < 0x10000000000000 then p.mantissa
        else (p.exponent + 1074).toNat * 0x10000000000000 + p.mantissa) := by
  have hlt := d.toBits.toNat_lt
  simp only [shape] at h
  generalize d.toBits.toNat = bits at h hlt
  split at h
  · split at h <;> cases h
  · split at h <;> cases h
    all_goals
      dsimp only
      by_cases hsign : bits / 0x8000000000000000 = 1
      · rw [decide_eq_true hsign]
        rw [if_pos rfl]
        split <;> omega
      · rw [decide_eq_false hsign]
        rw [if_neg Bool.false_ne_true]
        split <;> omega

theorem eq_of_shape {d e : Float} {p : Parts} (hd : shape d = .finite p)
    (he : shape e = .finite p) : d = e := by
  rw [← Float.toBits_inj, ← UInt64.toNat_inj, toBits_of_shape hd, toBits_of_shape he]

/-- The number rounds to the double, which has the given sign. -/
def Rounds (negative : Bool) (x : ℚ) (d : Float) : Prop :=
  ∃ p, shape d = .finite p ∧ p.negative = negative ∧ p.IsNearest x

/-- A number rounds to one double. -/
theorem Rounds.unique {negative : Bool} {x : ℚ} {d e : Float} (hd : Rounds negative x d)
    (he : Rounds negative x e) : d = e := by
  obtain ⟨p, hp, hsign, hnearest⟩ := hd
  obtain ⟨q, hq, hsign', hnearest'⟩ := he
  have hcanonical := isCanonical_of_shape hp
  have hcanonical' := isCanonical_of_shape hq
  have hsize := hnearest.size_eq hcanonical hcanonical' hnearest'
  obtain ⟨hmantissa, hexponent⟩ := Parts.eq_of_size_eq hcanonical hcanonical' hsize
  refine eq_of_shape hp (hq.trans (congrArg Shape.finite ?_))
  rw [Parts.mk.injEq]
  exact ⟨hsign'.trans hsign.symm, hmantissa.symm, hexponent.symm⟩

end SqlVerbs.Double
