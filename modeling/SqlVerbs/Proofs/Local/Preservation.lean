import SqlVerbs.Proofs.Local.Evaluation

/-!
# Folding preserves values

An expression is evaluated in one environment, or its local parts are folded first and the rest is
evaluated where the local bindings are no longer known: both give the same value. The two
environments are the local bindings followed by a given one, and the given one alone.
-/

namespace SqlVerbs.Local

open Host (Expr)

/-! ## Folded expressions -/

/-- The scope with its bindings followed by the given ones. -/
def Scope.extended (scope : Scope) (given : Environment) : Scope :=
  { scope with env := scope.env ++ given }

/-- The scope with the given bindings only. -/
def Scope.over (scope : Scope) (given : Environment) : Scope := { scope with env := given }

theorem Scope.isWithin_extended (scope : Scope) (given : Environment) :
    scope.IsWithin (scope.extended given) where
  now := rfl
  get? name value h := by simp [Scope.extended, Bindings.get?_append, h]

/-- The value of the folded expression, if it has one, is the one that the bindings give. -/
def GivesValue (scope : Scope) (e : Expr) (f : Folded) : Prop :=
  ∀ v, f.value = some v → eval scope e = .ok v

/-- What is known of a folded expression: its value is the one that the bindings give; a constant
has it without any binding; and what is left of the expression has the value of the whole. -/
structure Agrees (scope : Scope) (given : Environment) (e : Expr) (f : Folded) : Prop where
  value : GivesValue scope e f
  constant : ∀ v, f.value = some v → f.touched = false → eval (scope.over given) e = .ok v
  residual : ∀ r v, f.residual = .ok r → eval (scope.extended given) e = .ok v →
    eval (scope.over given) r = .ok v

namespace Agrees

variable {scope : Scope} {given : Environment} {e : Expr} {v : Value}

theorem ofConstant (hvalue : eval scope e = .ok v) (hgiven : eval (scope.over given) e = .ok v) :
    Agrees scope given e (.constant e v) where
  value := by
    rintro _ ⟨⟩
    exact hvalue
  constant := by
    rintro _ ⟨⟩ -
    exact hgiven
  residual := by
    rintro _ w ⟨⟩ hw
    have hv : eval (scope.extended given) e = .ok v :=
      eval_mono (scope.isWithin_extended given) hvalue
    rw [hv] at hw
    cases hw
    exact hgiven

theorem ofBound (source : Expr) (hvalue : eval scope e = .ok v) (hplain : v.isPlain = true) :
    Agrees scope given e (.bound source v) where
  value := by
    rintro _ ⟨⟩
    exact hvalue
  constant := nofun
  residual r w hr hw := by
    have hv : eval (scope.extended given) e = .ok v :=
      eval_mono (scope.isWithin_extended given) hvalue
    rw [hv] at hw
    cases hw
    exact eval_toExpr hplain (blame_eq_ok.1 hr) _

theorem ofRemote {r : Expr} (touched : Bool)
    (h : ∀ v, eval (scope.extended given) e = .ok v → eval (scope.over given) r = .ok v) :
    Agrees scope given e (.remote r touched) where
  value := nofun
  constant := nofun
  residual := by
    rintro _ w ⟨⟩ hw
    exact h w hw

end Agrees

section Lists

variable {scope : Scope} {given : Environment} {args : List Expr} {folded : List Folded}
  {values : List Value}

theorem valuesOf?_valued_over (h : List.Forall₂ (Agrees scope given) args folded)
    (hvalues : valuesOf? folded = some values) (htouched : folded.any Folded.touched = false) :
    Valued (scope.over given) args values := by
  induction h generalizing values with
  | nil => cases hvalues; exact .nil
  | cons hf _ ih =>
    simp only [valuesOf?, Option.bind_eq_bind, Option.bind_eq_some_iff] at hvalues
    obtain ⟨value, hvalue, rest, hrest, hvalues⟩ := hvalues
    cases hvalues
    rw [List.any_cons, Bool.or_eq_false_iff] at htouched
    exact .cons (hf.constant value hvalue htouched.1) (ih hrest htouched.2)

theorem residuals_valued (h : List.Forall₂ (Agrees scope given) args folded) {rs : List Expr}
    (hrs : residuals folded = .ok rs) (hvalues : Valued (scope.extended given) args values) :
    Valued (scope.over given) rs values := by
  induction h generalizing rs values with
  | nil => cases hrs; cases hvalues; exact .nil
  | cons hf _ ih =>
    obtain ⟨r, hr, hrs⟩ := bind_eq_ok.1 hrs
    obtain ⟨rest, hrest, hrs⟩ := bind_eq_ok.1 hrs
    cases hrs
    cases hvalues with
    | cons hvalue hothers => exact .cons (hf.residual r _ hr hvalue) (ih hrest hothers)

/-! The keys of named arguments stay. -/

theorem foldNamed_keys {named : List (String × Expr)} {foldedNamed : List (String × Folded)}
    (h : foldNamed scope named = .ok foldedNamed) :
    foldedNamed.map Prod.fst = named.map Prod.fst := by
  induction named generalizing foldedNamed with
  | nil => cases h; rfl
  | cons entry rest ih =>
    obtain ⟨f, hf, h⟩ := bind_eq_ok.1 h
    obtain ⟨fs, hfs, h⟩ := bind_eq_ok.1 h
    cases h
    rw [List.map_cons, List.map_cons, ih hfs]

theorem namedResiduals_keys {foldedNamed : List (String × Folded)} {rs : List (String × Expr)}
    (h : namedResiduals foldedNamed = .ok rs) : rs.map Prod.fst = foldedNamed.map Prod.fst := by
  induction foldedNamed generalizing rs with
  | nil => cases h; rfl
  | cons entry rest ih =>
    obtain ⟨r, hr, h⟩ := bind_eq_ok.1 h
    obtain ⟨rs, hrs, h⟩ := bind_eq_ok.1 h
    cases h
    rw [List.map_cons, List.map_cons, ih hrs]

theorem namedValuesOf?_keys {foldedNamed : List (String × Folded)} {values : Bindings Value}
    (h : namedValuesOf? foldedNamed = some values) :
    values.map Prod.fst = foldedNamed.map Prod.fst := by
  induction foldedNamed generalizing values with
  | nil => cases h; rfl
  | cons entry rest ih =>
    simp only [namedValuesOf?, Option.bind_eq_bind, Option.bind_eq_some_iff] at h
    obtain ⟨value, hvalue, values, hvalues, h⟩ := h
    cases h
    rw [List.map_cons, List.map_cons, ih hvalues]

end Lists

/-! ## Folding -/

theorem access_of_notLocal {name : String} (h : ¬ alwaysLocal.contains name = true)
    (args : List Expr) : Access.ofCall name args = .function := by
  unfold Access.ofCall
  split
  · unfold Access.ofPair
    split
    case h_8 => rfl
    all_goals exact absurd (by decide) h
  · rfl

section Results

variable {scope : Scope} {name : String} {args : List Expr} {named : List (String × Expr)}
  {folded : List Folded} {foldedNamed : List (String × Folded)}
  (hname : ¬ alwaysLocal.contains name = true)
  (hargs : List.Forall₂ (GivesValue scope) args folded)
  (hkeys : foldedNamed.map Prod.fst = named.map Prod.fst)
  (hnamed : List.Forall₂ (GivesValue scope) (named.map Prod.snd) (foldedNamed.map Prod.snd))

include hname hargs hkeys hnamed

/-- A folded call gives the result of the call, its failures included. -/
theorem callFolded?_result {result : Except Reason Value}
    (h : callFolded? scope name folded foldedNamed = some result) :
    (∃ values, Valued scope args values) ∧ (∃ values, Valued scope (named.map Prod.snd) values) ∧
      eval scope (.call name args named) = blame (.call name args named) result := by
  rw [callFolded?] at h
  split at h
  · cases h
  · simp only [Option.bind_eq_bind, Option.bind_eq_some_iff] at h
    obtain ⟨values, hvalues, namedValues, hnamedValues, h⟩ := h
    have hvalued : Valued scope args values := valuesOf?_forall₂ hargs hvalues
    have hnamedValued : Valued scope (named.map Prod.snd) (namedValues.map Prod.snd) :=
      valuesOf?_forall₂ hnamed (valuesOf?_of_namedValuesOf? hnamedValues)
    refine ⟨⟨_, hvalued⟩, ⟨_, hnamedValued⟩, ?_⟩
    rw [eval, evalCall_function (access_of_notLocal hname args), allValues_evalEach.2 hvalued,
      allNamedValues_evalEachNamed.2
        ⟨(namedValuesOf?_keys hnamedValues).trans hkeys, hnamedValued⟩, ← Option.some.inj h]
    rfl

theorem callFolded?_value {v : Value}
    (h : callFolded? scope name folded foldedNamed = some (.ok v)) :
    eval scope (.call name args named) = .ok v :=
  (callFolded?_result hname hargs hkeys hnamed h).2.2

end Results

section Calls

variable {scope : Scope} {given : Environment} {name : String} {args : List Expr}
  {named : List (String × Expr)} {folded : List Folded} {foldedNamed : List (String × Folded)}
  (hname : ¬ alwaysLocal.contains name = true)
  (hargs : List.Forall₂ (Agrees scope given) args folded)
  (hkeys : foldedNamed.map Prod.fst = named.map Prod.fst)
  (hnamed : List.Forall₂ (Agrees scope given) (named.map Prod.snd) (foldedNamed.map Prod.snd))

include hname hargs hkeys hnamed

theorem callFolded?_constant {v : Value}
    (h : callFolded? scope name folded foldedNamed = some (.ok v))
    (htouched : folded.any Folded.touched = false)
    (htouchedNamed : foldedNamed.any (fun entry ↦ entry.2.touched) = false) :
    eval (scope.over given) (.call name args named) = .ok v := by
  rw [callFolded?] at h
  split at h
  · cases h
  · simp only [Option.bind_eq_bind, Option.bind_eq_some_iff] at h
    obtain ⟨values, hvalues, namedValues, hnamedValues, h⟩ := h
    have hvalued := valuesOf?_valued_over hargs hvalues htouched
    have hnamedValued := valuesOf?_valued_over hnamed (valuesOf?_of_namedValuesOf? hnamedValues)
      (by simpa [List.any_map] using htouchedNamed)
    rw [eval_call]
    exact .function (access_of_notLocal hname args) hvalued
      ((namedValuesOf?_keys hnamedValues).trans hkeys) hnamedValued (Option.some.inj h)

/-- A call that is put together again has the value of the call, because its arguments have. -/
theorem rebuild_agrees {touched : Bool} {f : Folded}
    (h : rebuild name folded foldedNamed touched = .ok f) :
    Agrees scope given (.call name args named) f := by
  obtain ⟨rs, hrs, h⟩ := bind_eq_ok.1 h
  obtain ⟨namedRs, hnamedRs, h⟩ := bind_eq_ok.1 h
  cases h
  apply Agrees.ofRemote
  intro v hv
  have haccess := access_of_notLocal hname
  cases eval_call.1 hv with
  | function access valued keys namedValued result =>
    rw [eval_call]
    refine .function (haccess rs) (residuals_valued hargs hrs valued) ?_
      (residuals_valued hnamed (residuals_of_namedResiduals hnamedRs) namedValued) result
    exact keys.trans (hkeys.symm.trans (namedResiduals_keys hnamedRs).symm)
  | binding _ access | member _ access | element _ access | subset _ access
  | qualified access => cases access.symm.trans (haccess args)

theorem foldCall_agrees (henv : ∀ entry ∈ scope.env, entry.2.isPlain = true)
    (hplain : isPlainExpr (.call name args named) = true) {f : Folded}
    (h : foldCall scope (.call name args named) name folded foldedNamed = .ok f) :
    Agrees scope given (.call name args named) f := by
  have hgives := hargs.imp fun _ _ hf ↦ hf.value
  have hgivesNamed := hnamed.imp fun _ _ hf ↦ hf.value
  simp only [foldCall] at h
  split at h
  · rename_i hresult htouched
    obtain ⟨v, hv, h⟩ := bind_eq_ok.1 h
    cases h
    rw [blame_eq_ok.1 hv] at hresult
    have hvalue := callFolded?_value hname hgives hkeys hgivesNamed hresult
    exact .ofBound _ hvalue (eval_isPlain henv hplain hvalue)
  · rename_i hresult htouched
    rw [Bool.or_eq_false_iff] at htouched
    cases h
    exact .ofConstant (callFolded?_value hname hgives hkeys hgivesNamed hresult)
      (callFolded?_constant hname hargs hkeys hnamed hresult htouched.1 htouched.2)
  · exact rebuild_agrees hname hargs hkeys hnamed h

end Calls

section Folding

variable {scope : Scope} {given : Environment}
  (hcolumns : ∀ name ∈ scope.columns, scope.env.has name = false)
  (henv : ∀ entry ∈ scope.env, entry.2.isPlain = true)

include henv

/-- A form that never reaches the backend has its value here; a column chosen by pronoun has none
in any environment. -/
theorem foldLocal_agrees {name : String} {args : List Expr} {named : List (String × Expr)}
    (hplain : isPlainExpr (.call name args named) = true) {f : Folded}
    (h : foldLocal scope name args named = .ok f) :
    Agrees scope given (.call name args named) f := by
  simp only [foldLocal] at h
  split at h
  · rename_i haccess
    obtain ⟨chosen, -, h⟩ := bind_eq_ok.1 h
    cases h
    apply Agrees.ofRemote
    intro v hv
    cases eval_call.1 hv <;> simp_all
  · obtain ⟨v, hv, h⟩ := bind_eq_ok.1 h
    cases h
    exact .ofBound _ hv (eval_isPlain henv hplain hv)

include hcolumns

theorem foldSymbol_agrees (name : String) :
    Agrees scope given (.symbol name) (foldSymbol scope name) := by
  have hremote (hnone : scope.env.get? name = none) :
      Agrees scope given (.symbol name) (.remote (.symbol name) false) := by
    apply Agrees.ofRemote
    intro v hv
    rw [eval, blame_eq_ok, Scope.lookup_eq_ok] at hv ⊢
    simpa [Scope.extended, Scope.over, Bindings.get?_append, hnone] using hv
  unfold foldSymbol
  split
  · rename_i hcolumn
    apply hremote
    simpa [Bindings.has] using hcolumns name (by simpa [Scope.isColumn] using hcolumn)
  · split
    · rename_i value hvalue
      refine .ofBound _ ?_ (isPlain_of_get? henv hvalue)
      rw [eval, blame_eq_ok, Scope.lookup_eq_ok]
      exact hvalue
    · rename_i hnone
      exact hremote hnone

theorem fold_agrees {e : Expr} (he : isPlainExpr e = true) {f : Folded}
    (h : fold scope e = .ok f) : Agrees scope given e f := by
  induction e using Expr.induction generalizing f with
  | literal value => cases h; exact .ofConstant rfl rfl
  | vector items => cases h; exact .ofConstant rfl rfl
  | symbol name => cases h; exact foldSymbol_agrees hcolumns henv name
  | call name args named ihargs ihnamed =>
    rw [fold] at h
    split at h
    · exact foldLocal_agrees henv he h
    · rename_i hname
      obtain ⟨-, hplain, hplainNamed⟩ := isPlainExpr_call.1 he
      obtain ⟨folded, hfolded, h⟩ := bind_eq_ok.1 h
      obtain ⟨foldedNamed, hfoldedNamed, h⟩ := bind_eq_ok.1 h
      have hargs := foldAll_forall₂ (fun e hmem _ hf ↦ ihargs e hmem (hplain e hmem) hf) hfolded
      have hnamed := foldAll_forall₂ (List.forall_mem_map.2
        fun entry hmem _ hf ↦ ihnamed entry hmem (hplainNamed entry hmem) hf)
        (foldAll_of_foldNamed hfoldedNamed)
      exact foldCall_agrees hname hargs (foldNamed_keys hfoldedNamed) hnamed henv he h

end Folding

/-- Folding preserves values. If no column is bound locally, and neither the bindings nor the
expression have dates or `NULL` inside a vector, then an expression that has a value over the
local bindings and any given ones has, once it is folded, the same value over the given ones
alone. -/
theorem partialEval_preserves_value {scope : Scope} {given : Environment} {e residual : Expr}
    {value : Value} (hcolumns : ∀ name ∈ scope.columns, scope.env.has name = false)
    (henv : ∀ entry ∈ scope.env, entry.2.isPlain = true) (he : isPlainExpr e = true)
    (hresidual : partialEval scope e = .ok residual)
    (hvalue : eval (scope.extended given) e = .ok value) :
    eval (scope.over given) residual = .ok value := by
  obtain ⟨f, hf, hr⟩ := bind_eq_ok.1 hresidual
  have hagrees : Agrees scope given e f := fold_agrees hcolumns henv he hf
  exact hagrees.residual residual value hr hvalue

/-- A local factor and a member of a local list meet a column: `(x + k) * rates$low` is folded to
`(x + 2L) * 10L`. -/
theorem partialEval_preserves_value_mixedProduct :
    let integers (items : List Int64) : Value := .atomic (items.map fun i ↦ .integer (some i))
    let scope : Scope :=
      { columns := ["x"], env := [("k", integers [2]), ("rates", .list [("low", integers [10])])]
        now := ⟨⟨2024, 1, 1⟩, 0, 0, 0⟩ }
    let e : Expr := .call "*" [.call "+" [.symbol "x", .symbol "k"] [],
      .call "$" [.symbol "rates", .symbol "low"] []] []
    let residual : Expr := .call "*" [.call "+" [.symbol "x", .literal (.integer (some 2))] [],
      .literal (.integer (some 10))] []
    let given : Environment := [("x", integers [1, 5])]
    partialEval scope e = .ok residual ∧
      eval (scope.extended given) e = .ok (integers [30, 70]) ∧
      eval (scope.over given) residual = .ok (integers [30, 70]) := by
  intro integers scope e residual given
  have hresidual : partialEval scope e = .ok residual := rfl
  have hvalue : eval (scope.extended given) e = .ok (integers [30, 70]) := rfl
  have hcolumns : ∀ name ∈ scope.columns, scope.env.has name = false := by decide
  have henv : ∀ entry ∈ scope.env, entry.2.isPlain = true := by decide
  have he : isPlainExpr e = true := by decide
  exact ⟨hresidual, hvalue, partialEval_preserves_value hcolumns henv he hresidual hvalue⟩

end SqlVerbs.Local
