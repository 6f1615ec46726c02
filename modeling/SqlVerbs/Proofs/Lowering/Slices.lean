import SqlVerbs.Dialect.Registry
import SqlVerbs.Lowering.Expr
import SqlVerbs.Proofs.Double.WholeSums
import SqlVerbs.Proofs.Local.NamedArguments

/-!
# Slices of strings

A slice has two ends here and a length on the other side. Here the first position is moved into the
string and the last one is included; there the start is kept and the length is computed, at least
zero. Both describe the same characters, wherever the two ends are.
-/

namespace SqlVerbs

open Double (HasValue)

/-! ## The standard reading -/

/-- What `SUBSTRING` means in SQL: the characters at the positions from `first` on and before
`first + length`. Positions are counted from one, and those outside of the string contribute
nothing. -/
def Sql.substring (s : String) (first length : Int) : String :=
  .ofList (((s.toList.zipIdx 1).filter fun (_, position) ↦
    first ≤ position ∧ position < first + length).map Prod.fst)

/-- The elements at the positions between two bounds are some of the beginning dropped, and then
some of the rest taken. -/
theorem filter_zipIdx {α : Type} (items : List α) (start : Nat) (low high : Int) :
    ((items.zipIdx start).filter fun (_, position) ↦ low ≤ position ∧ position < high).map
      Prod.fst = (items.drop (low - start).toNat).take (high - max low start).toNat := by
  induction items generalizing start with
  | nil => simp
  | cons item rest ih =>
    have hrest := ih (start + 1)
    rw [List.zipIdx_cons, List.filter_cons]
    rcases lt_or_ge (start : Int) low with hbefore | hfrom
    · have hdrop : (low - start).toNat = (low - (start + 1 : Nat)).toNat + 1 := by omega
      have htake : max low (start : Int) = max low (start + 1 : Nat) := by omega
      rw [if_neg (by simp; omega), hrest, hdrop, List.drop_succ_cons, htake]
    · have hdrop : (low - start).toNat = 0 ∧ (low - (start + 1 : Nat)).toNat = 0 := by omega
      have hmax : max low (start : Int) = start ∧
          max low (start + 1 : Nat) = (start + 1 : Nat) := by omega
      rw [hdrop.2, hmax.2, List.drop_zero] at hrest
      rw [hdrop.1, hmax.1, List.drop_zero]
      rcases lt_or_ge (start : Int) high with hinside | hbehind
      · have htake : (high - start).toNat = (high - (start + 1 : Nat)).toNat + 1 := by omega
        rw [if_pos (by simp; omega), List.map_cons, hrest, htake, List.take_succ_cons]
      · have htake : (high - start).toNat = 0 ∧ (high - (start + 1 : Nat)).toNat = 0 := by omega
        rw [if_neg (by simp; omega), hrest, htake.1, htake.2, List.take_zero, List.take_zero]

/-- A slice between two positions is what the standard reading gives for the number of positions. -/
theorem Local.slice_eq_substring (s : String) (first last : Int) :
    Local.slice first last s = Sql.substring s first (max (last - first + 1) 0) := by
  have hdrop : (first - (1 : Nat)).toNat = (max 1 first - 1).toNat := by omega
  have htake : (first + max (last - first + 1) 0 - max first (1 : Nat)).toNat =
      (last - max 1 first + 1).toNat := by omega
  rw [Local.slice, Sql.substring, filter_zipIdx, hdrop, htake]

/-! ## Bounds -/

/-- The whole number that a bound is, if it is one of a magnitude below `1e15`. -/
def boundOf? : Literal → Option Int
  | .integer (some i) => if i.toInt.natAbs < 10 ^ 15 then some i.toInt else none
  | .double (some d) => Local.smallWhole? d
  | _ => none

/-- Whole doubles of a magnitude below `1e15` are the ones that count as bounds. -/
theorem Local.smallWhole?_eq_some {d : Float} {i : Int} :
    Local.smallWhole? d = some i ↔ HasValue d i ∧ i.natAbs < 10 ^ 15 := by
  have hsmall {p : Double.Parts} (hvalue : p.value = i) :
      (p.isWhole && !p.isLarge) = true ↔ i.natAbs < 10 ^ 15 := by
    have hdenominator : 0 < p.denominator := Double.Parts.denominator_pos
    simp [Double.Parts.isWhole, Double.Parts.isLarge, Double.Parts.numerator_of_value hvalue,
      mul_comm i.natAbs, Nat.mul_lt_mul_left hdenominator]
  unfold Local.smallWhole?
  cases hshape : Double.shape d with
  | nan | infinite => simp [HasValue, hshape]
  | finite p =>
    have hvalue : HasValue d i ↔ p.value = i := by simp [HasValue, hshape]
    dsimp only
    rw [Option.ite_none_right_eq_some, hvalue]
    constructor
    · rintro ⟨hwhole, ⟨⟩⟩
      have htrunc := Double.Parts.value_trunc (Bool.and_eq_true_iff.1 hwhole).1
      exact ⟨htrunc, (hsmall htrunc).1 hwhole⟩
    · rintro ⟨hi, hlt⟩
      exact ⟨(hsmall hi).2 hlt, congrArg some (Double.Parts.trunc_of_value hi)⟩

section Bounds

variable {l : Literal} {i : Int}

theorem hasValue_of_boundOf? (h : boundOf? l = some i) :
    i.natAbs < 10 ^ 15 ∧ ∃ d, l.toDouble? = some d ∧ HasValue d i := by
  cases l with
  | integer value =>
    cases value with
    | none => cases h
    | some value =>
      rw [boundOf?, Option.ite_none_right_eq_some] at h
      obtain ⟨hlt, ⟨⟩⟩ := h
      refine ⟨hlt, Double.ofInt64 value, rfl, ?_⟩
      have hnearest : Double.nearest value.toInt = value.toInt := by
        rw [Double.nearest, Double.nearestNat_of_lt (by omega), Int.sign_mul_natAbs]
      have hvalue := Double.hasValue_ofInt64 value
      rwa [hnearest] at hvalue
  | double value =>
    cases value with
    | none => cases h
    | some d =>
      obtain ⟨hvalue, hlt⟩ := Local.smallWhole?_eq_some.1 h
      exact ⟨hlt, d, rfl, hvalue⟩
  | logical value | string value | null => cases h

/-- Where a bound is a double, it is written as the integer that it is. -/
theorem Lowering.wholeNumber_bound (h : boundOf? l = some i) :
    Lowering.wholeNumber (.literal l) = .literal (.integer (some (Int64.ofInt i))) := by
  cases l with
  | integer value =>
    cases value with
    | none => cases h
    | some value =>
      rw [boundOf?, Option.ite_none_right_eq_some] at h
      obtain ⟨-, ⟨⟩⟩ := h
      simp [Lowering.wholeNumber]
  | double value =>
    cases value with
    | none => cases h
    | some d =>
      obtain ⟨hvalue, hlt⟩ := Local.smallWhole?_eq_some.1 h
      have habs : Double.abs d < 1e15 :=
        ((Double.hasValue_natAbs hvalue (by omega)).lt_iff Double.hasValue_wholeLimit).2 (by omega)
      rw [Lowering.wholeNumber, hvalue.isWhole_eq_true, decide_eq_true habs, Bool.and_true,
        if_pos rfl, hvalue.toInt64_eq (by omega)]
  | logical value | string value | null => cases h

/-- The length is exact, because the ends are whole numbers of far less than 53 bits. -/
theorem Lowering.sliceLength_eq {x y : Float} {i j : Int} (hx : HasValue x i) (hy : HasValue y j)
    (hi : i.natAbs < 10 ^ 15) (hj : j.natAbs < 10 ^ 15) :
    Lowering.sliceLength x y = Int64.ofInt (max (j - i + 1) 0) := by
  have hlength : HasValue (y - x + 1.0) (j - i + 1 : Int) :=
    Double.hasValue_add (Double.hasValue_sub hy hx (by omega) (by omega) (by omega))
      Double.hasValue_one (by omega) (by decide) (by omega)
  have hzero : HasValue 0.0 (0 : Int) :=
    ⟨⟨false, 0, -1074⟩, by decide, by norm_num [Double.Parts.value, Double.Parts.size]⟩
  rw [Lowering.sliceLength]
  split
  · rename_i hpos
    rw [gt_iff_lt, hzero.lt_iff hlength] at hpos
    rw [hlength.toInt64_eq (by omega), max_eq_left hpos.le]
  · rename_i hneg
    rw [gt_iff_lt, hzero.lt_iff hlength] at hneg
    rw [max_eq_right (by omega)]
    rfl

end Bounds

/-! ## Both sides -/

theorem Local.scalarDouble_ofLiteral {l : Literal} {d : Float} (h : l.toDouble? = some d)
    (what : String) : Local.scalarDouble (.ofLiteral l) what = .ok d := by
  have hliterals : (Value.ofLiteral l).literals = .ok [l] := by cases l <;> first | rfl | cases h
  have hfirst : [l].head?.bind Literal.toDouble? = some d := h
  simp only [Local.scalarDouble, hliterals, bind, Except.bind, hfirst]
  rfl

/-- The local function gives what the standard reading gives. -/
theorem Local.substr_eq_substring {start stop : Literal} {i j : Int}
    (hstart : boundOf? start = some i) (hstop : boundOf? stop = some j) (x : Local.Value) :
    Local.substr x (.ofLiteral start) (.ofLiteral stop) =
      Local.mapText (fun s ↦ some (Sql.substring s i (max (j - i + 1) 0))) x := by
  obtain ⟨hi, first, hfirst, hvalue⟩ := hasValue_of_boundOf? hstart
  obtain ⟨hj, last, hlast, hvalue'⟩ := hasValue_of_boundOf? hstop
  have hlow : Double.clampTo (-0x8000000000000000) 0xffffffffffffffff first = i :=
    hvalue.clampTo_eq (by omega) (by omega)
  have hhigh : Double.clampTo (-0x8000000000000000) 0xffffffffffffffff last = j :=
    hvalue'.clampTo_eq (by omega) (by omega)
  rw [Local.substr, scalarDouble_ofLiteral hfirst, scalarDouble_ofLiteral hlast]
  change (if (first.isNaN || last.isNaN) = true then _ else _) = _
  rw [hvalue.isNaN_eq_false, hvalue'.isNaN_eq_false, Bool.or_false, if_neg Bool.false_ne_true]
  simp only [hlow, hhigh, slice_eq_substring]

/-- All dialects that are built in have one rule for slices. -/
theorem Dialect.rulesFor_substr {d : Dialect} (hd : d ∈ Dialect.builtin) :
    ∃ fn ∈ ["SUBSTR", "SUBSTRING"],
      d.rulesFor "substr" = some [⟨.substr fn, .exact 3, ["x", "start", "stop"], []⟩] := by
  have htable : ∀ d ∈ Dialect.builtin, ∃ fn ∈ ["SUBSTR", "SUBSTRING"],
      d.rulesFor "substr" = some [⟨.substr fn, .exact 3, ["x", "start", "stop"], []⟩] := by
    decide +kernel
  exact htable d hd

theorem Rule.place_unnamed {α : Type} (rule : Rule) (args : List α) :
    rule.place args [] = ⟨args.map some, [], []⟩ := by
  simp [Rule.place, Rule.namedSlots, Rule.withRole, fillSlots]

theorem Noted.warn_nil : Noted.warn [] = pure () := rfl

/-- A slice with whole bounds is lowered to a call with the start and the length as integers. -/
theorem Lowering.lower_substr {cx : Context} (hd : cx.dialect ∈ Dialect.builtin)
    {start stop : Literal} {i j : Int} (hstart : boundOf? start = some i)
    (hstop : boundOf? stop = some j) :
    ∃ fn ∈ ["SUBSTR", "SUBSTRING"], ∀ text : Host.Expr,
      lower cx (.call "substr" [text, .literal start, .literal stop] []) = do
        return .call fn [← lower cx text, .literal (.integer (some (Int64.ofInt i))),
          .literal (.integer (some (Int64.ofInt (max (j - i + 1) 0))))] := by
  obtain ⟨fn, hfn, hrules⟩ := Dialect.rulesFor_substr hd
  refine ⟨fn, hfn, fun text ↦ ?_⟩
  obtain ⟨hi, first, hfirst, hvalue⟩ := hasValue_of_boundOf? hstart
  obtain ⟨hj, last, hlast, hvalue'⟩ := hasValue_of_boundOf? hstop
  have hcall (operand : Operand) : lowerCall cx (orderTerms cx)
      (.call "substr" [text, .literal start, .literal stop] []) "substr"
      [operand, lowerOperand cx (orderTerms cx) (.literal start),
        lowerOperand cx (orderTerms cx) (.literal stop)] [] = do
      return .call fn [← operand.result, .literal (.integer (some (Int64.ofInt i))),
        .literal (.integer (some (Int64.ofInt (max (j - i + 1) 0))))] := by
    rw [lowerCall, hrules]
    simp only [resolveRule, Rule.place_unnamed]
    simp [applyRule, Noted.warn_nil, slice, Call.arg, Call.operand, Call.operand?, lowerOperand,
      Host.Expr.literal?, hfirst, hlast, sliceLength_eq hvalue hvalue' hi hj,
      wholeNumber_bound hstart, Arity.accepts]
  exact hcall _

/-- Folded slices and slices that are left to the backend agree. Whatever the whole numbers at both
ends are, a local slice has the characters that the standard reading gives for the two literals of
the call that any dialect makes of the same ends. -/
theorem substr_agrees {start stop : Literal} {i j : Int} (hstart : boundOf? start = some i)
    (hstop : boundOf? stop = some j) :
    ∃ first length : Int64, first.toInt = i ∧ length.toInt = max (j - i + 1) 0 ∧
      (∀ x, Local.substr x (.ofLiteral start) (.ofLiteral stop) =
        Local.mapText (fun s ↦ some (Sql.substring s first.toInt length.toInt)) x) ∧
      (∀ (scope : Local.Scope) (text : Local.Known scope) (s : String),
        text.value = .atomic [.string (some s)] →
          Local.FoldsTo [text, .literal scope start, .literal scope stop] [] "substr"
            (.atomic [.string (some (Sql.substring s first.toInt length.toInt))])) ∧
      ∀ cx : Lowering.Context, cx.dialect ∈ Dialect.builtin →
        ∃ fn ∈ ["SUBSTR", "SUBSTRING"], ∀ text : Host.Expr,
          Lowering.lower cx (.call "substr" [text, .literal start, .literal stop] []) = do
            return .call fn [← Lowering.lower cx text, .literal (.integer (some first)),
              .literal (.integer (some length))] := by
  have hi := (hasValue_of_boundOf? hstart).1
  have hj := (hasValue_of_boundOf? hstop).1
  have hfirst : (Int64.ofInt i).toInt = i := Int64.toInt_ofInt_of_le (by omega) (by omega)
  have hlength : (Int64.ofInt (max (j - i + 1) 0)).toInt = max (j - i + 1) 0 :=
    Int64.toInt_ofInt_of_le (by omega) (by omega)
  refine ⟨Int64.ofInt i, Int64.ofInt (max (j - i + 1) 0), hfirst, hlength, ?_, ?_,
    fun cx hd ↦ Lowering.lower_substr hd hstart hstop⟩
  · rw [hfirst, hlength]
    exact Local.substr_eq_substring hstart hstop
  · intro scope text s htext
    refine Local.foldsTo_of_value _ _ (by decide) (by decide) ?_
    change Local.substr text.value (.ofLiteral start) (.ofLiteral stop) = _
    rw [htext, hfirst, hlength, Local.substr_eq_substring hstart hstop]
    rfl

/-- A slice that begins before its string: the length counts the positions before it, too. -/
theorem substr_agrees_parcel :
    boundOf? (.integer (some (-2))) = some (-2) ∧ boundOf? (.double (some 3.0)) = some 3 ∧
      Sql.substring "parcel" (-2) 6 = "par" ∧
      ∃ first length : Int64, first.toInt = -2 ∧ length.toInt = max (3 - (-2) + 1) 0 ∧
        ∀ x, Local.substr x (.ofLiteral (.integer (some (-2)))) (.ofLiteral (.double (some 3.0))) =
          Local.mapText (fun s ↦ some (Sql.substring s first.toInt length.toInt)) x := by
  have hstart : boundOf? (.integer (some (-2))) = some (-2) := by decide
  have hstop : boundOf? (.double (some 3.0)) = some 3 := by decide +kernel
  obtain ⟨first, length, hfirst, hlength, hlocal, -⟩ := substr_agrees hstart hstop
  exact ⟨hstart, hstop, by decide, first, length, hfirst, hlength, hlocal⟩

end SqlVerbs
