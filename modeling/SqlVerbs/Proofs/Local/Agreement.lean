import SqlVerbs.Proofs.Local.Preservation

/-!
# The two evaluators agree

Folding has a local value for an expression exactly if the evaluator has one, and both values are
the same. Where there is one, what folding leaves is either the constant for that value or the
expression as written, and the names alone decide which of the two.

Only one direction needs a condition on names: a column hides a local binding from folding, but not
from the evaluator.
-/

namespace SqlVerbs.Local

open Calendar (DateTime)
open Host (Expr)

/-! ## Functions without a local entry -/

section Functions

variable {now : DateTime} {name : String} {args : List Value} {named : Bindings Value}
  {result : Except Reason Value}

theorem mem_localFunctions_of_callVariadic (h : callVariadic name args named = some result) :
    name ∈ localFunctions := by
  unfold callVariadic at h
  split at h
  · decide
  · decide
  · decide
  · obtain ⟨op, hop, -⟩ := Option.map_eq_some_iff.1 h
    unfold AggregateOp.ofName? at hop
    split at hop <;> first | decide | cases hop

theorem mem_localFunctions_of_callBinary {x y : Value}
    (h : callBinary name x y named = some result) : name ∈ localFunctions := by
  unfold callBinary at h
  split at h
  · rename_i hop
    unfold ArithOp.ofName? at hop
    split at hop <;> first | decide | cases hop
  · rename_i hop _
    unfold CompareOp.ofName? at hop
    split at hop <;> first | decide | cases hop
  · split at h <;> first | decide | cases h

theorem mem_localFunctions_of_entry (h : entry now name args named = some result) :
    name ∈ localFunctions := by
  unfold entry at h
  split at h
  · unfold callNullary at h
    split at h <;> first | decide | cases h
  · unfold callUnary at h
    split at h <;> first | decide | cases h
  · exact mem_localFunctions_of_callBinary h
  · unfold callTernary at h
    split at h <;> first | decide | cases h
  · cases h

/-- Only the functions of the table give values. -/
theorem mem_localFunctions_of_callLocal {value : Value}
    (h : callLocal now name args named = .ok value) : name ∈ localFunctions := by
  unfold callLocal at h
  split at h
  · rename_i hvariadic
    exact mem_localFunctions_of_callVariadic hvariadic
  · rename_i hentry
    exact mem_localFunctions_of_entry hentry
  · split at h <;> cases h

/-- A function that stays on the remote side has no local value, whatever its arguments. -/
theorem not_alwaysRemote_of_callLocal {value : Value}
    (h : callLocal now name args named = .ok value) : ¬ alwaysRemote.contains name = true := by
  have hdisjoint : ∀ function ∈ localFunctions, ¬ alwaysRemote.contains function = true := by
    decide
  exact hdisjoint name (mem_localFunctions_of_callLocal h)

end Functions

/-! ## Expressions with a local part -/

/-- Does the expression have a symbol that is bound locally, or a form that never reaches the
backend? -/
def Scope.touches (scope : Scope) (e : Expr) : Bool :=
  e.references.any scope.env.has || e.calls.any alwaysLocal.contains

theorem Scope.touches_eq_false {scope : Scope} {e : Expr} :
    scope.touches e = false ↔
      (∀ name ∈ e.references, scope.env.has name = false) ∧
        ∀ function ∈ e.calls, alwaysLocal.contains function = false := by
  simp only [Scope.touches, Bool.or_eq_false_iff, List.any_eq_false, Bool.not_eq_true]

theorem Scope.touches_call (scope : Scope) (name : String) (args : List Expr)
    (named : List (String × Expr)) :
    scope.touches (.call name args named) =
      (alwaysLocal.contains name || args.any scope.touches ||
        named.any (fun entry ↦ scope.touches entry.2)) := by
  rw [Bool.eq_iff_iff, ← not_iff_not, Bool.not_eq_true, Bool.not_eq_true]
  simp only [Scope.touches_eq_false, Bool.or_eq_false_iff, List.any_eq_false, Bool.not_eq_true,
    Expr.forall_mem_references_call, Expr.forall_mem_calls_call]
  constructor
  · rintro ⟨⟨hargs, hnamed⟩, hname, hcalls, hnamedCalls⟩
    exact ⟨⟨hname, fun e he ↦ ⟨hargs e he, hcalls e he⟩⟩,
      fun entry he ↦ ⟨hnamed entry he, hnamedCalls entry he⟩⟩
  · rintro ⟨⟨hname, hargs⟩, hnamed⟩
    exact ⟨⟨fun e he ↦ (hargs e he).1, fun entry he ↦ (hnamed entry he).1⟩, hname,
      fun e he ↦ (hargs e he).2, fun entry he ↦ (hnamed entry he).2⟩

/-! ## Folding gives the evaluator's values -/

theorem foldCall_givesValue {scope : Scope} {name : String} {args : List Expr}
    {named : List (String × Expr)} {folded : List Folded} {foldedNamed : List (String × Folded)}
    (hname : ¬ alwaysLocal.contains name = true)
    (hargs : List.Forall₂ (GivesValue scope) args folded)
    (hkeys : foldedNamed.map Prod.fst = named.map Prod.fst)
    (hnamed : List.Forall₂ (GivesValue scope) (named.map Prod.snd) (foldedNamed.map Prod.snd))
    {f : Folded} (h : foldCall scope (.call name args named) name folded foldedNamed = .ok f) :
    GivesValue scope (.call name args named) f := by
  simp only [foldCall] at h
  split at h
  · rename_i hresult htouched
    obtain ⟨value, hvalue, h⟩ := bind_eq_ok.1 h
    cases h
    rw [blame_eq_ok.1 hvalue] at hresult
    rintro _ ⟨⟩
    exact callFolded?_value hname hargs hkeys hnamed hresult
  · rename_i hresult htouched
    cases h
    rintro _ ⟨⟩
    exact callFolded?_value hname hargs hkeys hnamed hresult
  · obtain ⟨rs, -, h⟩ := bind_eq_ok.1 h
    obtain ⟨namedRs, -, h⟩ := bind_eq_ok.1 h
    cases h
    rintro _ ⟨⟩

theorem foldLocal_givesValue {scope : Scope} {name : String} {args : List Expr}
    {named : List (String × Expr)} {f : Folded} (h : foldLocal scope name args named = .ok f) :
    GivesValue scope (.call name args named) f := by
  simp only [foldLocal] at h
  split at h
  · obtain ⟨chosen, -, h⟩ := bind_eq_ok.1 h
    cases h
    rintro _ ⟨⟩
  · obtain ⟨value, hvalue, h⟩ := bind_eq_ok.1 h
    cases h
    rintro _ ⟨⟩
    exact hvalue

theorem foldSymbol_givesValue (scope : Scope) (name : String) :
    GivesValue scope (.symbol name) (foldSymbol scope name) := by
  unfold foldSymbol
  split
  · nofun
  · split
    · rename_i value hvalue
      rintro _ ⟨⟩
      rw [eval, blame_eq_ok, Scope.lookup_eq_ok]
      exact hvalue
    · nofun

theorem fold_givesValue {scope : Scope} {e : Expr} {f : Folded} (h : fold scope e = .ok f) :
    GivesValue scope e f := by
  induction e using Expr.induction generalizing f with
  | literal value => cases h; rintro _ ⟨⟩; rfl
  | vector items => cases h; rintro _ ⟨⟩; rfl
  | symbol name => cases h; exact foldSymbol_givesValue scope name
  | call name args named ihargs ihnamed =>
    rw [fold] at h
    split at h
    · exact foldLocal_givesValue h
    · rename_i hname
      obtain ⟨folded, hfolded, h⟩ := bind_eq_ok.1 h
      obtain ⟨foldedNamed, hfoldedNamed, h⟩ := bind_eq_ok.1 h
      have hargs := foldAll_forall₂ (fun e hmem _ hf ↦ ihargs e hmem hf) hfolded
      have hnamed := foldAll_forall₂ (List.forall_mem_map.2 fun entry hmem _ hf ↦
        ihnamed entry hmem hf) (foldAll_of_foldNamed hfoldedNamed)
      exact foldCall_givesValue hname hargs (foldNamed_keys hfoldedNamed) hnamed h

/-! ## The evaluator's values are found by folding -/

/-- The folded form of an expression with a local value: the expression as written, with its value,
and touched if it has a local part. -/
def Scope.valued (scope : Scope) (e : Expr) (value : Value) : Folded :=
  ⟨e, some value, scope.touches e⟩

section Completeness

variable {scope : Scope}

theorem foldAll_of_valued {args : List Expr}
    (ih : ∀ e ∈ args, ∀ value, eval scope e = .ok value →
      fold scope e = .ok (scope.valued e value))
    {values : List Value} (h : Valued scope args values) :
    ∃ folded, foldAll scope args = .ok folded ∧ valuesOf? folded = some values ∧
      folded.any Folded.touched = args.any scope.touches := by
  induction h with
  | nil => exact ⟨[], rfl, rfl, rfl⟩
  | @cons e value args values hvalue _ ihrest =>
    rw [List.forall_mem_cons] at ih
    obtain ⟨folded, hfolded, hvalues, htouched⟩ := ihrest ih.2
    refine ⟨scope.valued e value :: folded, ?_, ?_, ?_⟩
    · rw [foldAll, ih.1 value hvalue, hfolded]
      rfl
    · rw [valuesOf?, hvalues]
      rfl
    · rw [List.any_cons, List.any_cons, htouched]
      rfl

/-- Named arguments are found like positional ones, and their keys stay. -/
theorem foldNamed_of_valued {named : List (String × Expr)}
    (ih : ∀ entry ∈ named, ∀ value, eval scope entry.2 = .ok value →
      fold scope entry.2 = .ok (scope.valued entry.2 value))
    {values : Bindings Value} (hkeys : values.map Prod.fst = named.map Prod.fst)
    (h : Valued scope (named.map Prod.snd) (values.map Prod.snd)) :
    ∃ folded, foldNamed scope named = .ok folded ∧ namedValuesOf? folded = some values ∧
      folded.any (fun entry ↦ entry.2.touched) =
        named.any (fun entry ↦ scope.touches entry.2) := by
  induction named generalizing values with
  | nil =>
    rw [List.map_nil, List.map_eq_nil_iff] at hkeys
    exact ⟨[], rfl, by rw [hkeys]; rfl, rfl⟩
  | cons entry rest ihrest =>
    cases values with
    | nil => cases hkeys
    | cons first values =>
      rw [List.forall_mem_cons] at ih
      rw [List.map_cons, List.map_cons, List.cons.injEq] at hkeys
      rw [List.map_cons, List.map_cons, Valued, List.forall₂_cons] at h
      obtain ⟨folded, hfolded, hvalues, htouched⟩ := ihrest ih.2 hkeys.2 h.2
      refine ⟨(entry.1, scope.valued entry.2 first.2) :: folded, ?_, ?_, ?_⟩
      · rw [foldNamed, ih.1 first.2 h.1, hfolded]
        rfl
      · rw [namedValuesOf?, hvalues, ← hkeys.1]
        rfl
      · rw [List.any_cons, List.any_cons, htouched]
        rfl

/-- Only a form chosen by the data pronoun is folded without a value, and it has none. -/
theorem foldLocal_of_eval {name : String} {args : List Expr} {named : List (String × Expr)}
    {value : Value} (h : eval scope (.call name args named) = .ok value) :
    foldLocal scope name args named = .ok (.bound (.call name args named) value) := by
  simp only [foldLocal]
  split
  · rename_i haccess
    cases eval_call.1 h <;> simp_all
  · rw [h]
    rfl

theorem foldCall_of_callLocal {e : Expr} {name : String} {args : List Folded}
    {named : List (String × Folded)} {values : List Value} {namedValues : Bindings Value}
    {value : Value} (hargs : valuesOf? args = some values)
    (hnamed : namedValuesOf? named = some namedValues)
    (h : callLocal scope.now name values namedValues = .ok value) :
    foldCall scope e name args named =
      .ok ⟨e, some value, args.any Folded.touched || named.any (fun entry ↦ entry.2.touched)⟩ := by
  have hcall : callFolded? scope name args named = some (.ok value) := by
    rw [callFolded?, if_neg (not_alwaysRemote_of_callLocal h), hargs, hnamed, ← h]
    rfl
  cases htouched : args.any Folded.touched || named.any (fun entry ↦ entry.2.touched) with
  | true =>
    simp only [foldCall, hcall, htouched]
    rfl
  | false => simp only [foldCall, hcall, htouched, Folded.constant]

/-- An expression with a local value is folded to that value, if no column hides a binding. -/
theorem fold_of_eval {e : Expr}
    (hvisible : ∀ name ∈ e.references, scope.isColumn name = true → scope.env.has name = false)
    {value : Value} (h : eval scope e = .ok value) :
    fold scope e = .ok (scope.valued e value) := by
  induction e using Expr.induction generalizing value with
  | literal l => cases h; rfl
  | vector items => cases h; rfl
  | symbol name =>
    rw [eval, blame_eq_ok, Scope.lookup_eq_ok] at h
    have hhas : scope.env.has name = true := by simp [Bindings.has, h]
    have hcolumn : ¬ scope.isColumn name = true := by
      intro hcolumn
      have := hvisible name (by simp [Expr.references]) hcolumn
      simp_all
    have htouches : scope.touches (.symbol name) = true := by
      simp [Scope.touches, Expr.references, hhas]
    rw [fold, foldSymbol, if_neg hcolumn, h, Scope.valued, htouches]
    rfl
  | call name args named ihargs ihnamed =>
    rw [Expr.forall_mem_references_call] at hvisible
    rw [fold, Scope.valued, Scope.touches_call]
    -- Calls that are always local are evaluated at once; the others are folded from their
    -- arguments.
    split
    · rename_i hname
      rw [foldLocal_of_eval h, hname]
      rfl
    · rename_i hname
      cases eval_call.1 h with
      | function access valued keys namedValued result =>
        obtain ⟨folded, hfolded, hvalues, htouched⟩ :=
          foldAll_of_valued (fun e he _ hv ↦ ihargs e he (hvisible.1 e he) hv) valued
        obtain ⟨foldedNamed, hfoldedNamed, hnamedValues, htouchedNamed⟩ :=
          foldNamed_of_valued (fun entry he _ hv ↦ ihnamed entry he (hvisible.2 entry he) hv) keys
            namedValued
        rw [hfolded, hfoldedNamed]
        change foldCall scope _ name folded foldedNamed = _
        rw [foldCall_of_callLocal hvalues hnamedValues result, htouched, htouchedNamed,
          Bool.eq_false_iff.2 hname, Bool.false_or]
      | binding _ access | member _ access | element _ access | subset _ access
      | qualified access => cases access.symm.trans (access_of_notLocal hname args)

end Completeness

/-! ## What is left of an expression with a local value -/

theorem residual_of_valued {scope : Scope} {e : Expr} {value : Value} :
    (scope.valued e value).residual =
      if scope.touches e then blame e value.toExpr else .ok e := by
  rw [Folded.residual, Scope.valued]
  cases scope.touches e <;> rfl

/-- Only a list has no constant. -/
theorem exists_toExpr {value : Value} (h : ∀ entries, value ≠ .list entries) :
    ∃ constant, value.toExpr = .ok constant := by
  unfold Value.toExpr
  split
  case h_6 entries => exact absurd rfl (h entries)
  all_goals exact ⟨_, rfl⟩

/-- The two evaluators agree. If no symbol of an expression is both a column and bound locally,
folding succeeds with a local value exactly if evaluation succeeds with that value. What is left of
such an expression is the constant for its value, or a failure where the value is a list, if the
expression has a symbol that is bound locally or a form that never reaches the backend; any other
expression with a value is left as it is. -/
theorem fold_agrees_with_eval {scope : Scope} {e : Expr}
    (hvisible : ∀ name ∈ e.references, scope.isColumn name = true →
      scope.env.has name = false) :
    (∀ value, (∃ f, fold scope e = .ok f ∧ f.value = some value) ↔ eval scope e = .ok value) ∧
      ∀ value, eval scope e = .ok value →
        (scope.touches e = false → partialEval scope e = .ok e) ∧
        (scope.touches e = true →
          (∀ entries, value = .list entries →
            partialEval scope e = .error (.localFailure e.deparse .listInSql)) ∧
          ((∀ entries, value ≠ .list entries) →
            ∃ constant, value.toExpr = .ok constant ∧ partialEval scope e = .ok constant)) := by
  constructor
  · intro value
    constructor
    · rintro ⟨f, hf, hvalue⟩
      exact fold_givesValue hf value hvalue
    · intro hvalue
      exact ⟨_, fold_of_eval hvisible hvalue, rfl⟩
  · intro value hvalue
    have hpartial : partialEval scope e =
        if scope.touches e then blame e value.toExpr else .ok e := by
      rw [partialEval, fold_of_eval hvisible hvalue, ← residual_of_valued]
      rfl
    constructor
    · intro htouches
      rw [hpartial, htouches]
      rfl
    · intro htouches
      rw [hpartial, if_pos htouches]
      constructor
      · rintro entries rfl
        rfl
      · intro hlist
        obtain ⟨constant, hconstant⟩ := exists_toExpr hlist
        exact ⟨constant, hconstant, by rw [hconstant]; rfl⟩

/-- The second of two local rates, chosen by a computed position: `rates[1L + 1L]` is `30L` in both
evaluators, although `1L + 1L` alone is left as written. -/
theorem fold_agrees_with_eval_computedPosition :
    let integers (items : List Int64) : Value := .atomic (items.map fun i ↦ .integer (some i))
    let scope : Scope :=
      { columns := ["x"], env := [("rates", integers [10, 30])], now := ⟨⟨2024, 1, 1⟩, 0, 0, 0⟩ }
    let one : Expr := .literal (.integer (some 1))
    let e : Expr := .call "[" [.symbol "rates", .call "+" [one, one] []] []
    (∀ name ∈ e.references, scope.isColumn name = true → scope.env.has name = false) ∧
      (∃ f, fold scope e = .ok f ∧ f.value = some (integers [30])) ∧
      eval scope e = .ok (integers [30]) ∧
      partialEval scope e = .ok (.literal (.integer (some 30))) := by
  intro integers scope one e
  have hvisible : ∀ name ∈ e.references, scope.isColumn name = true →
      scope.env.has name = false := by
    decide
  have heval : eval scope e = .ok (integers [30]) := rfl
  have hagrees := fold_agrees_with_eval hvisible
  have hconstant := ((hagrees.2 _ heval).2 (by decide)).2 nofun
  refine ⟨hvisible, (hagrees.1 _).2 heval, heval, ?_⟩
  obtain ⟨constant, hvalue, hpartial⟩ := hconstant
  cases hvalue
  exact hpartial

end SqlVerbs.Local
