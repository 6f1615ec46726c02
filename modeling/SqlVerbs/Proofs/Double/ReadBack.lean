import SqlVerbs.Double.Reader
import SqlVerbs.Proofs.Double.Nearest
import SqlVerbs.Proofs.Double.Rounding
import SqlVerbs.Proofs.Sql.Lexemes

/-!
# Printed doubles are read back

The reader of doubles first finds out which decimal is written, and then rounds it. Each way of
printing a decimal writes that very decimal, so what is left is which decimal is printed: one that
is read as the double.
-/

namespace SqlVerbs.Double

open Sql (toList_toString_int toList_sqlText)
open Sql.Scanner (isDigit_toDigits)

/-! ## The decimal that is written -/

/-- The places behind a point, and what is left. -/
def splitPlaces : List Char → List Char × List Char
  | '.' :: rest => (rest.takeWhile Char.isDigit, rest.dropWhile Char.isDigit)
  | chars => ([], chars)

/-- Digits with an optional point and an optional exponent, before anything is rounded. -/
def readDecimal? (chars : List Char) : Option Decimal :=
  let whole := chars.takeWhile Char.isDigit
  let (places, tail) := splitPlaces (chars.dropWhile Char.isDigit)
  if whole = [] ∧ places = [] then none
  else (readExponent? tail).map fun exponent ↦
    ⟨digitsValue (whole ++ places), exponent - places.length⟩

/-- A sign and a decimal. -/
def readSigned? (chars : List Char) : Option (Bool × Decimal) :=
  let (negative, body) := splitSign chars
  (readDecimal? body).map (negative, ·)

/-- The reader of doubles rounds the decimal that is written. -/
theorem readUnsigned?_eq (chars : List Char) :
    readUnsigned? chars = (readDecimal? chars).map fun d ↦ ofDecimal d.digits d.power := by
  rw [readUnsigned?, readDecimal?]
  dsimp only
  split
  · rename_i rest hafter
    rw [hafter, splitPlaces]
    split
    · rfl
    · cases readExponent? _ <;> rfl
  · rename_i hafter
    rw [splitPlaces.eq_2 _ hafter]
    split
    · rfl
    · cases readExponent? _ <;> rfl

section Layout

variable {whole places tail : List Char}

theorem takeWhile_digits (hwhole : ∀ c ∈ whole, c.isDigit = true)
    (htail : ∀ c ∈ tail.head?, c.isDigit = false) :
    (whole ++ tail).takeWhile Char.isDigit = whole := by
  rw [List.takeWhile_append_of_pos hwhole]
  cases tail with
  | nil => simp
  | cons c tail => simp [htail c rfl]

theorem dropWhile_digits (hwhole : ∀ c ∈ whole, c.isDigit = true)
    (htail : ∀ c ∈ tail.head?, c.isDigit = false) :
    (whole ++ tail).dropWhile Char.isDigit = tail := by
  rw [List.dropWhile_append_of_pos hwhole]
  cases tail with
  | nil => rfl
  | cons c tail => simp [htail c rfl]

theorem readDecimal?_whole (hne : whole ≠ []) (hwhole : ∀ c ∈ whole, c.isDigit = true)
    (htail : ∀ c ∈ tail.head?, c.isDigit = false) (hpoint : tail.head? ≠ some '.') :
    readDecimal? (whole ++ tail) = (readExponent? tail).map fun e ↦ ⟨digitsValue whole, e⟩ := by
  have hplaces : splitPlaces tail = ([], tail) := by
    fun_cases splitPlaces tail with
    | case1 => exact absurd rfl hpoint
    | case2 => rfl
  rw [readDecimal?, takeWhile_digits hwhole htail, dropWhile_digits hwhole htail, hplaces]
  simp [hne]

theorem readDecimal?_point (hne : whole ≠ []) (hwhole : ∀ c ∈ whole, c.isDigit = true)
    (hplaces : ∀ c ∈ places, c.isDigit = true) (htail : ∀ c ∈ tail.head?, c.isDigit = false) :
    readDecimal? (whole ++ '.' :: (places ++ tail)) =
      (readExponent? tail).map fun e ↦ ⟨digitsValue (whole ++ places), e - places.length⟩ := by
  have hpoint : ∀ c ∈ ('.' :: (places ++ tail)).head?, c.isDigit = false := by
    rintro c ⟨⟩
    rfl
  rw [readDecimal?, takeWhile_digits hwhole hpoint, dropWhile_digits hwhole hpoint, splitPlaces,
    takeWhile_digits hplaces htail, dropWhile_digits hplaces htail]
  simp [hne]

/-- Digits with a point and without an exponent. -/
theorem readDecimal?_places {whole places : List Char} (hne : whole ≠ [])
    (hwhole : ∀ c ∈ whole, c.isDigit = true) (hplaces : ∀ c ∈ places, c.isDigit = true) :
    readDecimal? (whole ++ '.' :: places) =
      some ⟨digitsValue (whole ++ places), -places.length⟩ := by
  have hnone : ∀ c ∈ ([] : List Char).head?, c.isDigit = false := nofun
  have hread := readDecimal?_point hne hwhole hplaces hnone
  rwa [List.append_nil, readExponent?, Option.map_some, zero_sub] at hread

end Layout

/-! ## Printed decimals -/

theorem digitsValue_toDigits (n : Nat) : digitsValue (Nat.toDigits 10 n) = n :=
  Nat.ofDigitChars_ten_toDigits

theorem digitsValue_zeros (n : Nat) (digits : List Char) :
    digitsValue ('0' :: (List.replicate n '0' ++ digits)) = digitsValue digits := by
  change Nat.ofDigitChars 10 (List.replicate n '0' ++ digits) 0 = Nat.ofDigitChars 10 digits 0
  rw [Nat.ofDigitChars_append, Nat.ofDigitChars_replicate_zero, Nat.mul_zero]

theorem isDigit_zero : ∀ c ∈ ['0'], c.isDigit = true := by
  intro c hc
  rw [List.mem_singleton.1 hc]
  rfl

theorem splitSign_of_isDigit {chars : List Char} (h : ∀ c ∈ chars.head?, c.isDigit = true) :
    splitSign chars = (false, chars) := by
  fun_cases splitSign chars with
  | case1 => cases h '-' rfl
  | case2 => cases h '+' rfl
  | case3 => rfl

theorem readExponent?_toString (i : Int) :
    readExponent? ('e' :: (toString i).toList) = some i := by
  have hdigits : (toString i.natAbs).toList = Nat.toDigits 10 i.natAbs := by simp
  have hsign : splitSign (toString i).toList = (decide (i < 0), Nat.toDigits 10 i.natAbs) := by
    rw [toList_toString_int, hdigits]
    by_cases hneg : i < 0
    · simp [hneg, splitSign]
    · rw [if_neg hneg, List.nil_append, decide_eq_false hneg]
      exact splitSign_of_isDigit fun c hc ↦ isDigit_toDigits (List.mem_of_mem_head? hc)
  have hall : (Nat.toDigits 10 i.natAbs).all Char.isDigit = true :=
    List.all_eq_true.2 fun c hc ↦ isDigit_toDigits hc
  rw [readExponent?, hsign]
  dsimp only
  rw [if_pos ⟨.inl rfl, Nat.toDigits_ne_nil, hall⟩, digitsValue_toDigits]
  by_cases hneg : i < 0
  · rw [decide_eq_true hneg, if_pos rfl, Int.ofNat_natAbs_of_nonpos hneg.le, neg_neg]
  · rw [decide_eq_false hneg, if_neg Bool.false_ne_true, Int.natAbs_of_nonneg (not_lt.1 hneg)]

section Printed

variable {digits : List Char} (hdigits : ∀ c ∈ digits, c.isDigit = true)

include hdigits

/-- A point between the digits. -/
theorem readDecimal?_split {places : Nat} (h : places < digits.length) :
    readDecimal? (digits.take (digits.length - places) ++
      '.' :: digits.drop (digits.length - places)) = some ⟨digitsValue digits, -places⟩ := by
  have hne : digits.take (digits.length - places) ≠ [] := by
    rw [ne_eq, List.take_eq_nil_iff, ← List.length_eq_zero_iff]
    omega
  have hwhole (c : Char) (hc : c ∈ digits.take (digits.length - places)) : c.isDigit = true :=
    hdigits c (List.mem_of_mem_take hc)
  have hplaces (c : Char) (hc : c ∈ digits.drop (digits.length - places)) : c.isDigit = true :=
    hdigits c (List.mem_of_mem_drop hc)
  have hlength : (digits.drop (digits.length - places)).length = places := by
    rw [List.length_drop]
    omega
  rw [readDecimal?_places hne hwhole hplaces, List.take_append_drop, hlength]

/-- Zeros between the point and the digits. -/
theorem readDecimal?_padded (zeros : Nat) :
    readDecimal? ('0' :: '.' :: (List.replicate zeros '0' ++ digits)) =
      some ⟨digitsValue digits, -(zeros + digits.length : Nat)⟩ := by
  have hplaces (c : Char) (hc : c ∈ List.replicate zeros '0' ++ digits) : c.isDigit = true := by
    rcases List.mem_append.1 hc with hc | hc
    · rw [(List.mem_replicate.1 hc).2]
      rfl
    · exact hdigits c hc
  have hread := readDecimal?_places (List.cons_ne_nil _ _) isDigit_zero hplaces
  rwa [List.singleton_append, List.singleton_append, digitsValue_zeros, List.length_append,
    List.length_replicate] at hread

end Printed

/-- Positional text with places writes the decimal itself. -/
theorem readDecimal?_positional {d : Decimal} (h : d.power < 0) :
    readDecimal? d.positional.toList = some d := by
  have hdigits (c : Char) (hc : c ∈ Nat.toDigits 10 d.digits) : c.isDigit = true :=
    isDigit_toDigits hc
  have hpower : -((-d.power).toNat : Int) = d.power := by omega
  simp only [Decimal.positional]
  rw [if_neg (not_le.2 h)]
  split
  · rename_i hplaces
    have hread := readDecimal?_split hdigits hplaces
    rw [digitsValue_toDigits, hpower] at hread
    simpa using hread
  · rename_i hplaces
    have hread := readDecimal?_padded hdigits
      ((-d.power).toNat - (Nat.toDigits 10 d.digits).length)
    rw [digitsValue_toDigits, Nat.sub_add_cancel (not_lt.1 hplaces), hpower] at hread
    simpa [digitsText, zeros] using hread

/-- Scientific text writes the decimal with an exponent that counts from the first digit. -/
theorem readDecimal?_scientific (d : Decimal) : readDecimal? d.scientific.toList = some d := by
  have hdigits (c : Char) (hc : c ∈ Nat.toDigits 10 d.digits) : c.isDigit = true :=
    isDigit_toDigits hc
  have hvalue := digitsValue_toDigits d.digits
  have hscale : d.scale = d.power + (Nat.toDigits 10 d.digits).length - 1 := rfl
  have hexponent := readExponent?_toString d.scale
  have hletter : ∀ c ∈ ('e' :: (toString d.scale).toList).head?, c.isDigit = false := by
    rintro c ⟨⟩
    rfl
  simp only [Decimal.scientific, Decimal.mantissaText]
  split
  · rename_i hnil
    exact absurd hnil Nat.toDigits_ne_nil
  · rename_i only honly
    rw [honly] at hdigits hvalue hscale
    have hread := readDecimal?_whole (List.cons_ne_nil only []) hdigits hletter (by simp)
    have hpower : d.scale = d.power := by simpa using hscale
    rw [hexponent, Option.map_some, hvalue, hpower] at hread
    simpa [hpower] using hread
  · rename_i first rest _ hmany
    rw [hmany] at hdigits hvalue hscale
    have hfirst (c : Char) (hc : c ∈ [first]) : c.isDigit = true :=
      hdigits c (List.mem_singleton.1 hc ▸ List.mem_cons_self)
    have hread := readDecimal?_point (List.cons_ne_nil _ _) hfirst
      (fun c hc ↦ hdigits c (List.mem_cons_of_mem _ hc)) hletter
    have hpower : d.scale - (rest.length : Int) = d.power := by
      rw [hscale, List.length_cons]
      omega
    rw [hexponent, Option.map_some, List.singleton_append, List.singleton_append, hvalue,
      hpower] at hread
    simpa using hread

/-- A whole number with a zero behind the point. -/
theorem readDecimal?_whole_zero (n : Nat) :
    readDecimal? (digitsText n ++ ".0").toList = some ⟨10 * n, -1⟩ := by
  have hwhole (c : Char) (hc : c ∈ Nat.toDigits 10 n) : c.isDigit = true := isDigit_toDigits hc
  have hread := readDecimal?_places Nat.toDigits_ne_nil hwhole isDigit_zero
  have hvalue : digitsValue (Nat.toDigits 10 n ++ ['0']) = 10 * n := by
    change Nat.ofDigitChars 10 (Nat.toDigits 10 n ++ ['0']) 0 = 10 * n
    rw [Nat.ofDigitChars_append, Nat.ofDigitChars_ten_toDigits]
    rfl
  rw [hvalue] at hread
  simpa [digitsText] using hread

/-! ## The printed text of a double -/

section Text

variable {p : Parts}

theorem isLarge_iff : p.isLarge = true ↔ 10 ^ 15 ≤ p.size := by
  have hpos : (0 : ℚ) < p.denominator := by exact_mod_cast Parts.denominator_pos
  rw [Parts.isLarge, decide_eq_true_iff, Parts.size_eq_div, le_div_iff₀ hpos, mul_comm]
  exact_mod_cast Iff.rfl

theorem size_of_isWhole (h : p.isWhole = true) : p.size = (p.numerator / p.denominator : Nat) := by
  have hdvd : p.denominator ∣ p.numerator := Nat.dvd_of_mod_eq_zero (of_decide_eq_true h)
  have hne : (p.denominator : ℚ) ≠ 0 := by exact_mod_cast Parts.denominator_pos.ne'
  rw [Parts.size_eq_div, Nat.cast_div hdvd hne]

theorem isWhole_of_size {n : Nat} (h : p.size = n) : p.isWhole = true := by
  have hne : (p.denominator : ℚ) ≠ 0 := by exact_mod_cast Parts.denominator_pos.ne'
  rw [Parts.size_eq_div, div_eq_iff hne] at h
  have hnumerator : p.numerator = n * p.denominator := by exact_mod_cast h
  rw [Parts.isWhole, hnumerator, Nat.mul_mod_left, decide_eq_true rfl]

/-- Whole numbers of at most 53 bits are doubles. -/
theorem exists_parts_of_lt {n : Nat} (h : n < 2 ^ 53) :
    ∃ q : Parts, q.IsCanonical ∧ q.size = n := by
  rcases Nat.eq_zero_or_pos n with rfl | hpos
  · exact ⟨⟨false, 0, -1074⟩, ⟨by decide, le_rfl, nofun⟩, by simp [Parts.size]⟩
  · have hlog : n.log2 < 53 := (Nat.log2_lt hpos.ne').2 h
    obtain ⟨k, hk⟩ : ∃ k, k + n.log2 = 52 := ⟨52 - n.log2, by omega⟩
    have hbits : (n * 2 ^ k).log2 = 52 := by rw [log2_mul_two_pow hpos, Nat.add_comm, hk]
    obtain ⟨hle, hlt⟩ := (Nat.log2_eq_iff (by positivity)).1 hbits
    refine ⟨⟨false, n * 2 ^ k, -k⟩, ⟨hlt, by dsimp only; omega, fun _ ↦ hle⟩, ?_⟩
    rw [Parts.size]
    push_cast
    rw [mul_assoc, ← zpow_natCast, ← zpow_add₀ two_ne_zero, add_neg_cancel, zpow_zero, mul_one]

/-- A whole number that is read as a double below `10 ^ 15` is that double. -/
theorem size_of_isNearest {n : Nat} (h : p.IsNearest n) (hsmall : p.size < 10 ^ 15) :
    p.size = n := by
  have hlimit : (10 : Nat) ^ 15 < 2 ^ 53 := by decide
  have hn : n ≤ 10 ^ 15 := by
    by_contra hlarge
    have hlarge : (10 : ℚ) ^ 15 < n := by exact_mod_cast not_le.1 hlarge
    obtain ⟨q, hq, hsize⟩ := exists_parts_of_lt hlimit
    have hle := h.le q hq
    rw [hsize, abs_of_pos (by linarith), abs_of_pos (by push_cast; linarith)] at hle
    push_cast at hle
    linarith
  obtain ⟨q, hq, hsize⟩ := exists_parts_of_lt (hn.trans_lt hlimit)
  have hle := h.le q hq
  rw [hsize, sub_self, abs_zero] at hle
  have hzero := abs_nonpos_iff.1 hle
  linarith

/-- Below `10 ^ 15` only whole numbers are printed without places. -/
theorem power_neg (hp : p.IsCanonical) (hwhole : p.isWhole = false) (hsmall : p.isLarge = false)
    (tie : Tie) : (p.shortest tie).power < 0 := by
  by_contra hpower
  obtain ⟨power, hnat⟩ := Int.eq_ofNat_of_zero_le (not_lt.1 hpower)
  have hsize : p.size < 10 ^ 15 := by
    rw [← not_le, ← isLarge_iff, hsmall]
    exact Bool.false_ne_true
  have hvalue : (p.shortest tie).value = ((p.shortest tie).digits * 10 ^ power : Nat) := by
    rw [Decimal.value, hnat, zpow_natCast]
    push_cast
    rfl
  have hnearest := isNearest_shortest hp tie
  rw [hvalue] at hnearest
  rw [isWhole_of_size (size_of_isNearest hnearest hsize)] at hwhole
  cases hwhole

theorem point_mem_positional {d : Decimal} (h : d.power < 0) : '.' ∈ d.positional.toList := by
  simp only [Decimal.positional]
  rw [if_neg (not_le.2 h)]
  split <;> simp

/-- A double without its sign is printed as a decimal that is read as it, with a point or an
exponent. -/
theorem readDecimal?_sqlText (hp : p.IsCanonical) (hsign : p.negative = false) :
    ∃ decimal, readDecimal? p.sqlText.toList = some decimal ∧ p.IsNearest decimal.value ∧
      (decimal.value = 0 ↔ p.mantissa = 0) ∧
      ('.' ∈ p.sqlText.toList ∨ 'e' ∈ p.sqlText.toList) := by
  have hbody (body : String) : signText p.negative ++ body = body := by
    rw [hsign]
    exact String.empty_append
  rw [Parts.sqlText, hbody]
  split
  · rename_i hwhole
    have hvalue : Decimal.value ⟨10 * (p.numerator / p.denominator), -1⟩ = p.size := by
      rw [size_of_isWhole (Bool.and_eq_true_iff.1 hwhole).1, Decimal.value]
      push_cast
      norm_num
      ring
    exact ⟨_, readDecimal?_whole_zero _, hvalue ▸ p.isNearest_size, hvalue ▸ Parts.size_eq_zero,
      .inl (by simp)⟩
  split
  · exact ⟨_, readDecimal?_scientific _, isNearest_shortest hp _, value_shortest_eq_zero hp _,
      .inr (by simp [Decimal.scientific])⟩
  · rename_i hwhole hrange
    simp only [Bool.or_eq_true, not_or, Bool.not_eq_true] at hrange
    simp only [hrange.2, Bool.not_false, Bool.and_true, Bool.not_eq_true] at hwhole
    have hpower := power_neg hp hwhole hrange.2 .greater
    exact ⟨_, readDecimal?_positional hpower, isNearest_shortest hp _,
      value_shortest_eq_zero hp _, .inl (point_mem_positional hpower)⟩

/-- A decimal has no sign of its own. -/
theorem splitSign_of_readDecimal? {chars : List Char} {d : Decimal}
    (h : readDecimal? chars = some d) : splitSign chars = (false, chars) := by
  fun_cases splitSign chars with
  | case1 => simp [readDecimal?, splitPlaces] at h
  | case2 => simp [readDecimal?, splitPlaces] at h
  | case3 => rfl

/-- A printed double is read as it, with its sign. -/
theorem readSigned?_sqlText (hp : p.IsCanonical) :
    ∃ decimal, readSigned? p.sqlText.toList = some (p.negative, decimal) ∧
      p.IsNearest decimal.value ∧ (decimal.value = 0 ↔ p.mantissa = 0) ∧
      ('.' ∈ p.sqlText.toList ∨ 'e' ∈ p.sqlText.toList) := by
  obtain ⟨decimal, hread, hnearest, hzero, hpoint⟩ :=
    readDecimal?_sqlText (p := { p with negative := false }) ⟨hp.1, hp.2, hp.3⟩ rfl
  refine ⟨decimal, ?_, ⟨hnearest.le, hnearest.even⟩, hzero, ?_⟩
  · rw [toList_sqlText]
    cases p.negative with
    | true => simp [readSigned?, splitSign, hread]
    | false => simp [readSigned?, splitSign_of_readDecimal? hread, hread]
  · rw [toList_sqlText, List.mem_append, List.mem_append]
    exact hpoint.imp .inr .inr

example : Parts.sqlText ⟨true, 1, -1074⟩ = "-5e-324" ∧ Parts.sqlText ⟨true, 0, -1074⟩ = "-0.0" ∧
    Parts.sqlText ⟨false, 0x1999999999999a, -56⟩ = "0.1" := by
  decide +kernel

end Text

/-- The literal of a finite double is a number with a point or an exponent. It is the decimal of one
double only: read exactly and rounded to the nearest double, with its sign, it is the double that
was written. It is zero only for a zero. -/
theorem literal_reads_back (dialect : Dialect) {d : Float} {p : Parts}
    (h : shape d = .finite p) :
    let text := (dialect.formatLiteral (.double (some d))).toList
    ('.' ∈ text ∨ 'e' ∈ text) ∧
      ∃ decimal, readSigned? text = some (p.negative, decimal) ∧
        (∀ e, Rounds p.negative decimal.value e ↔ e = d) ∧
        (decimal.value = 0 ↔ p.mantissa = 0) := by
  have htext : dialect.formatLiteral (.double (some d)) = p.sqlText := by
    rw [Dialect.formatLiteral, Dialect.formatDouble, h]
  obtain ⟨decimal, hread, hnearest, hzero, hpoint⟩ := readSigned?_sqlText (isCanonical_of_shape h)
  have hrounds : Rounds p.negative decimal.value d := ⟨p, h, rfl, hnearest⟩
  rw [htext]
  refine ⟨hpoint, decimal, hread, fun e ↦ ⟨fun he ↦ he.unique hrounds, ?_⟩, hzero⟩
  rintro rfl
  exact hrounds

/-- The negative double that is nearest to zero. -/
theorem literal_reads_back_least :
    let text := (Dialect.ansi.formatLiteral (.double (some (.ofBits 0x8000000000000001)))).toList
    ('.' ∈ text ∨ 'e' ∈ text) ∧
      ∃ decimal, readSigned? text = some (true, decimal) ∧
        (∀ e, Rounds true decimal.value e ↔ e = .ofBits 0x8000000000000001) ∧
        (decimal.value = 0 ↔ 1 = 0) :=
  literal_reads_back Dialect.ansi (p := ⟨true, 1, -1074⟩) (by decide)

end SqlVerbs.Double
