import SqlVerbs.Proofs.Local.Names

/-!
# Normal forms of folding

An expression is normal if it has no form that never reaches the backend, and no symbol that is
bound locally and no column. Folding leaves such an expression as it is, and what it leaves of any
other is normal. Only a name behind the data pronoun is taken over without a look at the bindings,
so that it has to be a column or a name that is not bound.
-/

namespace SqlVerbs.Local

open Host (Expr)

namespace Scope

/-- Is the name a column, or not bound locally? -/
def keepsSymbol (scope : Scope) (name : String) : Bool :=
  scope.isColumn name || !scope.env.has name

/-- Is there nothing in the expression that folding resolves? -/
def isNormal (scope : Scope) (e : Expr) : Bool :=
  e.references.all scope.keepsSymbol && e.calls.all (fun function ↦ !alwaysLocal.contains function)

/-- Is the name that a form chooses with the data pronoun one that folding keeps? Other forms choose
none. -/
def choosesKept (scope : Scope) : Expr → Bool
  | .call name args named =>
    match Access.ofCall name args with
    | .pronoun .data member =>
      match pronounMember (.call name args named) member (eval scope member) with
      | .ok chosen => scope.keepsSymbol chosen
      | .error _ => true
    | _ => true
  | _ => true

variable {scope : Scope} {name : String} {args : List Expr} {named : List (String × Expr)}

theorem isNormal_iff {e : Expr} :
    scope.isNormal e = true ↔ (∀ symbol ∈ e.references, scope.keepsSymbol symbol = true) ∧
      ∀ function ∈ e.calls, (!alwaysLocal.contains function) = true := by
  rw [isNormal, Bool.and_eq_true, List.all_eq_true, List.all_eq_true]

theorem isNormal_call :
    scope.isNormal (.call name args named) = true ↔ ¬ alwaysLocal.contains name = true ∧
      (∀ e ∈ args, scope.isNormal e = true) ∧
        ∀ entry ∈ named, scope.isNormal entry.2 = true := by
  simp only [isNormal_iff, Expr.forall_mem_references_call, Expr.forall_mem_calls_call,
    Bool.not_eq_true', Bool.not_eq_true]
  constructor
  · rintro ⟨⟨hargs, hnamed⟩, hname, hcalls, hnamedCalls⟩
    exact ⟨hname, fun e he ↦ ⟨hargs e he, hcalls e he⟩,
      fun entry hentry ↦ ⟨hnamed entry hentry, hnamedCalls entry hentry⟩⟩
  · rintro ⟨hname, hargs, hnamed⟩
    exact ⟨⟨fun e he ↦ (hargs e he).1, fun entry hentry ↦ (hnamed entry hentry).1⟩, hname,
      fun e he ↦ (hargs e he).2, fun entry hentry ↦ (hnamed entry hentry).2⟩

theorem isNormal_symbol : scope.isNormal (.symbol name) = scope.keepsSymbol name := by
  simp [isNormal, Expr.references, Expr.calls]

/-- A constant is normal. -/
theorem isNormal_toExpr {value : Value} {e : Expr} (h : value.toExpr = .ok e) :
    scope.isNormal e = true := by
  rw [isNormal, references_toExpr h, calls_toExpr h]
  rfl

end Scope

/-! ## Normal expressions stay -/

section Stays

variable {scope : Scope} {name : String} {args : List Expr} {named : List (String × Expr)}

/-- Folding finds nothing to resolve in the expression, which may have a value all the same. -/
def Stays (scope : Scope) (e : Expr) : Prop := ∃ value, fold scope e = .ok ⟨e, value, false⟩

theorem foldSymbol_of_keepsSymbol (h : scope.keepsSymbol name = true) :
    foldSymbol scope name = .remote (.symbol name) false := by
  rw [foldSymbol]
  split
  · rfl
  · rename_i hcolumn
    have hunbound : scope.env.get? name = none := by
      simpa [Scope.keepsSymbol, Bindings.has, hcolumn] using h
    rw [hunbound]

theorem foldAll_of_stays (h : ∀ e ∈ args, Stays scope e) :
    ∃ folded, foldAll scope args = .ok folded ∧ residuals folded = .ok args ∧
      folded.any Folded.touched = false := by
  induction args with
  | nil => exact ⟨[], rfl, rfl, rfl⟩
  | cons e rest ih =>
    rw [List.forall_mem_cons] at h
    obtain ⟨value, hvalue⟩ := h.1
    obtain ⟨folded, hfolded, hresiduals, htouched⟩ := ih h.2
    have hresidual : (⟨e, value, false⟩ : Folded).residual = .ok e := by cases value <;> rfl
    refine ⟨⟨e, value, false⟩ :: folded, ?_, ?_, ?_⟩
    · rw [foldAll, hvalue, hfolded]
      rfl
    · rw [residuals, hresidual, hresiduals]
      rfl
    · rw [List.any_cons, htouched]
      rfl

theorem foldNamed_of_stays (h : ∀ entry ∈ named, Stays scope entry.2) :
    ∃ folded, foldNamed scope named = .ok folded ∧ namedResiduals folded = .ok named ∧
      folded.any (fun entry ↦ entry.2.touched) = false := by
  induction named with
  | nil => exact ⟨[], rfl, rfl, rfl⟩
  | cons entry rest ih =>
    rw [List.forall_mem_cons] at h
    obtain ⟨key, e⟩ := entry
    obtain ⟨value, hvalue⟩ := h.1
    obtain ⟨folded, hfolded, hresiduals, htouched⟩ := ih h.2
    have hresidual : (⟨e, value, false⟩ : Folded).residual = .ok e := by cases value <;> rfl
    refine ⟨(key, ⟨e, value, false⟩) :: folded, ?_, ?_, ?_⟩
    · rw [foldNamed, hvalue, hfolded]
      rfl
    · rw [namedResiduals, hresidual, hresiduals]
      rfl
    · rw [List.any_cons, htouched]
      rfl

variable (scope name) in
/-- A call whose arguments are as they were is put together as it was. -/
theorem foldCall_of_stays {folded : List Folded} {foldedNamed : List (String × Folded)}
    (hargs : residuals folded = .ok args) (hnamed : namedResiduals foldedNamed = .ok named)
    (htouched : folded.any Folded.touched = false)
    (htouchedNamed : foldedNamed.any (fun entry ↦ entry.2.touched) = false) :
    ∃ value, foldCall scope (.call name args named) name folded foldedNamed =
      .ok ⟨.call name args named, value, false⟩ := by
  have hrebuilt : rebuild name folded foldedNamed false =
      .ok (.remote (.call name args named) false) := by
    rw [rebuild, hargs, hnamed]
    rfl
  simp only [foldCall, htouched, htouchedNamed, Bool.or_false]
  cases callFolded? scope name folded foldedNamed with
  | none => exact ⟨none, hrebuilt⟩
  | some result =>
    cases result with
    | error reason => exact ⟨none, hrebuilt⟩
    | ok value => exact ⟨some value, rfl⟩

theorem stays_of_isNormal {e : Expr} (h : scope.isNormal e = true) : Stays scope e := by
  induction e using Expr.induction with
  | literal value => exact ⟨_, rfl⟩
  | vector items => exact ⟨_, rfl⟩
  | symbol name =>
    rw [Scope.isNormal_symbol] at h
    exact ⟨none, congrArg Except.ok (foldSymbol_of_keepsSymbol h)⟩
  | call name args named ihargs ihnamed =>
    obtain ⟨hname, hargs, hnamed⟩ := Scope.isNormal_call.1 h
    obtain ⟨folded, hfolded, hresiduals, htouched⟩ :=
      foldAll_of_stays fun e he ↦ ihargs e he (hargs e he)
    obtain ⟨foldedNamed, hfoldedNamed, hnamedResiduals, htouchedNamed⟩ :=
      foldNamed_of_stays fun entry hentry ↦ ihnamed entry hentry (hnamed entry hentry)
    obtain ⟨value, hcall⟩ := foldCall_of_stays scope name hresiduals hnamedResiduals
      htouched htouchedNamed
    refine ⟨value, ?_⟩
    rw [fold, if_neg hname, hfolded, hfoldedNamed]
    exact hcall

theorem partialEval_of_isNormal {e : Expr} (h : scope.isNormal e = true) :
    partialEval scope e = .ok e := by
  obtain ⟨value, hvalue⟩ := stays_of_isNormal h
  rw [partialEval, hvalue]
  cases value <;> rfl

end Stays

/-! ## What is left is normal -/

/-- What is known of a folded expression: what is left of it is normal, and so is an expression that
has a value without any local binding. -/
structure Settles (scope : Scope) (e : Expr) (f : Folded) : Prop where
  residual : ∀ r, f.residual = .ok r → scope.isNormal r = true
  constant : f.value.isSome = true → f.touched = false → scope.isNormal e = true

namespace Settles

variable {scope : Scope} {e : Expr}

theorem ofConstant (value : Value) (h : scope.isNormal e = true) :
    Settles scope e (.constant e value) where
  residual := by
    rintro _ ⟨⟩
    exact h
  constant _ _ := h

theorem ofBound (source : Expr) (value : Value) : Settles scope e (.bound source value) where
  residual r h := by
    change blame source value.toExpr = .ok r at h
    cases hvalue : value.toExpr with
    | error reason => rw [hvalue] at h; cases h
    | ok r' =>
      rw [hvalue] at h
      cases h
      exact Scope.isNormal_toExpr hvalue
  constant _ := nofun

theorem ofRemote {residual : Expr} (touched : Bool) (h : scope.isNormal residual = true) :
    Settles scope e (.remote residual touched) where
  residual := by
    rintro _ ⟨⟩
    exact h
  constant := nofun

end Settles

section Calls

variable {scope : Scope} {name : String} {args : List Expr} {named : List (String × Expr)}
  {folded : List Folded} {foldedNamed : List (String × Folded)}
  (hname : ¬ alwaysLocal.contains name = true)
  (hargs : List.Forall₂ (Settles scope) args folded)
  (hnamed : List.Forall₂ (Settles scope) (named.map Prod.snd) (foldedNamed.map Prod.snd))

include hname hargs hnamed

/-- The arguments of a constant call are constants. -/
theorem isNormal_of_callFolded? {result : Except Reason Value}
    (h : callFolded? scope name folded foldedNamed = some result)
    (htouched : folded.any Folded.touched = false)
    (htouchedNamed : foldedNamed.any (fun entry ↦ entry.2.touched) = false) :
    scope.isNormal (.call name args named) = true := by
  rw [callFolded?] at h
  split at h
  · cases h
  · simp only [Option.bind_eq_bind, Option.bind_eq_some_iff] at h
    obtain ⟨values, hvalues, namedValues, hnamedValues, -⟩ := h
    have hnormal : ∀ e ∈ args, scope.isNormal e = true :=
      valuesOf?_constant (hargs.imp fun _ _ hf ↦ hf.constant) hvalues htouched
    have hnamedNormal : ∀ e ∈ named.map Prod.snd, scope.isNormal e = true :=
      valuesOf?_constant (hnamed.imp fun _ _ hf ↦ hf.constant)
        (valuesOf?_of_namedValuesOf? hnamedValues) (by simpa [List.any_map] using htouchedNamed)
    exact Scope.isNormal_call.2 ⟨hname, hnormal, List.forall_mem_map.1 hnamedNormal⟩

theorem rebuild_settles {e : Expr} {touched : Bool} {f : Folded}
    (h : rebuild name folded foldedNamed touched = .ok f) : Settles scope e f := by
  obtain ⟨rs, hrs, h⟩ := bind_eq_ok.1 h
  obtain ⟨namedRs, hnamedRs, h⟩ := bind_eq_ok.1 h
  cases h
  have hnormal : ∀ r ∈ rs, scope.isNormal r = true :=
    residuals_forall (hargs.imp fun _ _ hf ↦ hf.residual) hrs
  have hnamedNormal : ∀ r ∈ namedRs.map Prod.snd, scope.isNormal r = true :=
    residuals_forall (hnamed.imp fun _ _ hf ↦ hf.residual) (residuals_of_namedResiduals hnamedRs)
  exact .ofRemote touched
    (Scope.isNormal_call.2 ⟨hname, hnormal, List.forall_mem_map.1 hnamedNormal⟩)

theorem foldCall_settles {f : Folded}
    (h : foldCall scope (.call name args named) name folded foldedNamed = .ok f) :
    Settles scope (.call name args named) f := by
  simp only [foldCall] at h
  split at h
  · obtain ⟨value, -, h⟩ := bind_eq_ok.1 h
    cases h
    exact .ofBound _ value
  · rename_i hresult htouched
    rw [Bool.or_eq_false_iff] at htouched
    cases h
    exact .ofConstant _
      (isNormal_of_callFolded? hname hargs hnamed hresult htouched.1 htouched.2)
  · exact rebuild_settles hname hargs hnamed h

end Calls

theorem foldLocal_settles {scope : Scope} {name : String} {args : List Expr}
    {named : List (String × Expr)} (hchoice : scope.choosesKept (.call name args named) = true)
    {f : Folded} (h : foldLocal scope name args named = .ok f) (e : Expr) : Settles scope e f := by
  simp only [foldLocal] at h
  split at h
  · rename_i member haccess
    obtain ⟨chosen, hchosen, h⟩ := bind_eq_ok.1 h
    cases h
    simp only [Scope.choosesKept, haccess, hchosen] at hchoice
    exact .ofRemote false (Scope.isNormal_symbol.trans hchoice)
  · obtain ⟨value, -, h⟩ := bind_eq_ok.1 h
    cases h
    exact .ofBound _ value

theorem foldSymbol_settles (scope : Scope) (name : String) :
    Settles scope (.symbol name) (foldSymbol scope name) := by
  by_cases hkept : scope.keepsSymbol name = true
  · rw [foldSymbol_of_keepsSymbol hkept]
    exact .ofRemote false (Scope.isNormal_symbol.trans hkept)
  · obtain ⟨hcolumn, hbound⟩ : ¬ scope.isColumn name = true ∧ scope.env.has name = true := by
      simpa [Scope.keepsSymbol] using hkept
    obtain ⟨value, hvalue⟩ := Option.isSome_iff_exists.1 hbound
    rw [foldSymbol, if_neg hcolumn, hvalue]
    exact .ofBound _ value

theorem fold_settles {scope : Scope} {e : Expr} (he : e.everywhere scope.choosesKept = true)
    {f : Folded} (h : fold scope e = .ok f) : Settles scope e f := by
  induction e using Expr.induction generalizing f with
  | literal value => cases h; exact .ofConstant _ rfl
  | vector items => cases h; exact .ofConstant _ rfl
  | symbol name => cases h; exact foldSymbol_settles scope name
  | call name args named ihargs ihnamed =>
    obtain ⟨hchoice, hchoices, hnamedChoices⟩ := Expr.everywhere_call.1 he
    rw [fold] at h
    split at h
    · exact foldLocal_settles hchoice h _
    · rename_i hname
      obtain ⟨folded, hfolded, h⟩ := bind_eq_ok.1 h
      obtain ⟨foldedNamed, hfoldedNamed, h⟩ := bind_eq_ok.1 h
      have hargs := foldAll_forall₂ (fun e hmem f hf ↦ ihargs e hmem (hchoices e hmem) hf) hfolded
      have hnamed := foldAll_forall₂ (List.forall_mem_map.2
        fun entry hmem f hf ↦ ihnamed entry hmem (hnamedChoices entry hmem) hf)
        (foldAll_of_foldNamed hfoldedNamed)
      exact foldCall_settles hname hargs hnamed h

/-- Folding reaches a normal form and stops there. It leaves a normal expression as it is. Where
each name behind the data pronoun is a column or not bound locally, what it leaves of an expression
is normal, so that folding once more changes nothing. -/
theorem partialEval_normal_form (scope : Scope) :
    (∀ e, scope.isNormal e = true → partialEval scope e = .ok e) ∧
      ∀ e residual, e.everywhere scope.choosesKept = true →
        partialEval scope e = .ok residual →
          scope.isNormal residual = true ∧ partialEval scope residual = .ok residual := by
  refine ⟨fun e he ↦ partialEval_of_isNormal he, ?_⟩
  intro e residual he h
  obtain ⟨f, hf, hresidual⟩ := bind_eq_ok.1 h
  have hnormal : scope.isNormal residual = true := (fold_settles he hf).residual residual hresidual
  exact ⟨hnormal, partialEval_of_isNormal hnormal⟩

/-- A column chosen by a computed name, a member of a local list, and a column that hides a binding:
`.data[[identity(key)]] * rates$low + x` is folded to `price * 10L + x` and stays so. -/
theorem partialEval_normal_form_hiddenBinding :
    let integer (i : Int64) : Value := .atomic [.integer (some i)]
    let scope : Scope :=
      { columns := ["x", "price"]
        env := [("x", integer 3), ("key", .atomic [.string (some "price")]),
          ("rates", .list [("low", integer 10)])]
        now := ⟨⟨2024, 1, 1⟩, 0, 0, 0⟩ }
    let chosen : Expr := .call "[[" [.symbol ".data", .call "identity" [.symbol "key"] []] []
    let rate : Expr := .call "$" [.symbol "rates", .symbol "low"] []
    let e : Expr := .call "+" [.call "*" [chosen, rate] [], .symbol "x"] []
    let residual : Expr := .call "+" [.call "*" [.symbol "price", .literal (.integer (some 10))] [],
      .symbol "x"] []
    e.everywhere scope.choosesKept = true ∧ partialEval scope e = .ok residual ∧
      scope.isNormal e = false ∧ scope.isNormal residual = true ∧
      partialEval scope residual = .ok residual := by
  intro integer scope chosen rate e residual
  have he : e.everywhere scope.choosesKept = true := by decide
  have h : partialEval scope e = .ok residual := rfl
  obtain ⟨hnormal, hagain⟩ := (partialEval_normal_form scope).2 e residual he h
  exact ⟨he, h, by decide, hnormal, hagain⟩

end SqlVerbs.Local
