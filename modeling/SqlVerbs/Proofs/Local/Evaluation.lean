import SqlVerbs.Proofs.Local.PlainValues

/-!
# Values of expressions

A call gets its value in one of six ways. From this, a value that some bindings give is given by
more bindings too, and over plain bindings a plain expression has a plain value. Folding gives the
same over other columns, if the same names of the expression are columns there.
-/

namespace SqlVerbs.Local

open Host (Expr)

/-! ## How a call gets its value -/

section Calls

variable {scope : Scope} {name : String} {args : List Expr} {named : List (String × Expr)}

/-- The expressions have these values. -/
abbrev Valued (scope : Scope) : List Expr → List Value → Prop :=
  List.Forall₂ (fun e value ↦ eval scope e = .ok value)

/-- The ways in which a call gets a value. -/
inductive CallGives (scope : Scope) (name : String) (args : List Expr)
    (named : List (String × Expr)) (value : Value) : Prop
  | binding {target member : Expr} {chosen : String} (pair : args = [target, member])
      (access : Access.ofCall name args = .pronoun .env member)
      (choice : pronounMember (.call name args named) member (eval scope member) = .ok chosen)
      (bound : scope.env.get? chosen = some value)
  | member {target index : Expr} {key : String} {whole : Value} (pair : args = [target, index])
      (access : Access.ofCall name args = .member (some key))
      (target : eval scope target = .ok whole) (found : memberOf whole key = .ok value)
  | element {target index : Expr} {whole position : Value} (pair : args = [target, index])
      (access : Access.ofCall name args = .element) (target : eval scope target = .ok whole)
      (index : eval scope index = .ok position) (found : elementOf whole position = .ok value)
  | subset {target index : Expr} {whole position : Value} (pair : args = [target, index])
      (access : Access.ofCall name args = .subset) (target : eval scope target = .ok whole)
      (index : eval scope index = .ok position) (found : Local.subset whole position = .ok value)
  | qualified {inner : String} (access : Access.ofCall name args = .qualified inner)
      (bound : scope.env.get? inner = some value)
  | function {values : List Value} {namedValues : Bindings Value}
      (access : Access.ofCall name args = .function) (valued : Valued scope args values)
      (keys : namedValues.map Prod.fst = named.map Prod.fst)
      (namedValued : Valued scope (named.map Prod.snd) (namedValues.map Prod.snd))
      (result : callLocal scope.now name values namedValues = .ok value)

theorem blame_eq_ok {α : Type} {e : Expr} {x : Except Reason α} {a : α} :
    blame e x = .ok a ↔ x = .ok a := by
  cases x <;> simp [blame]

theorem Scope.lookup_eq_ok {value : Value} :
    scope.lookup name = .ok value ↔ scope.env.get? name = some value := by
  unfold Scope.lookup
  cases scope.env.get? name <;> simp

theorem Scope.binding_eq_ok {value : Value} :
    scope.binding name = .ok value ↔ scope.env.get? name = some value := by
  unfold Scope.binding
  cases scope.env.get? name <;> simp

theorem evalEach_eq_map (scope : Scope) (args : List Expr) :
    evalEach scope args = args.map (eval scope) := by
  induction args with
  | nil => rfl
  | cons e rest ih => rw [evalEach, ih, List.map_cons]

theorem allValues_evalEach {values : List Value} :
    allValues (evalEach scope args) = .ok values ↔ Valued scope args values := by
  induction args generalizing values with
  | nil =>
    rw [Valued, List.forall₂_nil_left_iff]
    exact ⟨fun h ↦ (Except.ok.inj h).symm, fun h ↦ congrArg Except.ok h.symm⟩
  | cons e rest ih =>
    simp only [evalEach, allValues, bind_eq_ok, List.forall₂_cons_left_iff, ih]
    constructor
    · rintro ⟨value, hvalue, others, hothers, ⟨⟩⟩
      exact ⟨value, others, hvalue, hothers, rfl⟩
    · rintro ⟨value, others, hvalue, hothers, rfl⟩
      exact ⟨value, hvalue, others, hothers, rfl⟩

theorem allNamedValues_evalEachNamed {values : Bindings Value} :
    allNamedValues (evalEachNamed scope named) = .ok values ↔
      values.map Prod.fst = named.map Prod.fst ∧
        Valued scope (named.map Prod.snd) (values.map Prod.snd) := by
  induction named generalizing values with
  | nil =>
    simp only [List.map_nil, List.map_eq_nil_iff, List.forall₂_nil_left_iff, and_self]
    exact ⟨fun h ↦ (Except.ok.inj h).symm, fun h ↦ congrArg Except.ok h.symm⟩
  | cons entry rest ih =>
    simp only [evalEachNamed, allNamedValues, bind_eq_ok, ih]
    constructor
    · rintro ⟨value, hvalue, others, ⟨hkeys, hothers⟩, ⟨⟩⟩
      exact ⟨by simp [hkeys], .cons hvalue hothers⟩
    · cases values with
      | nil => rintro ⟨hkeys, -⟩; cases hkeys
      | cons first others =>
        rintro ⟨hkeys, hvalues⟩
        obtain ⟨key, value⟩ := first
        obtain ⟨rfl, hrest⟩ := List.cons.inj hkeys
        cases hvalues with
        | cons hvalue hothers => exact ⟨value, hvalue, others, ⟨hrest, hothers⟩, rfl⟩

/-- Only a call with two arguments is read off its arguments. -/
theorem access_cases (name : String) (args : List Expr) :
    Access.ofCall name args = .function ∨ ∃ target index, args = [target, index] := by
  match args with
  | [] | [_] | _ :: _ :: _ :: _ => exact .inl rfl
  | [target, index] => exact .inr ⟨target, index, rfl⟩

theorem evalCall_function {values : List (Except Error Value)}
    {namedValues : List (String × Except Error Value)}
    (h : Access.ofCall name args = .function) :
    evalCall scope name args named values namedValues = (do
      let values ← allValues values
      blame (.call name args named)
        (callLocal scope.now name values (← allNamedValues namedValues))) := by
  unfold evalCall
  rw [h]

/-- A member that is chosen by pronoun is the second argument. -/
theorem pronoun_member {p : Pronoun} {member target index : Expr}
    (h : Access.ofPair name target index = .pronoun p member) : member = index := by
  unfold Access.ofPair at h
  split at h <;> try cases h
  · rfl
  · rfl
  all_goals split at h <;> cases h

theorem eval_pair {target index : Expr} {value : Value}
    (hfunction : Access.ofCall name [target, index] ≠ .function) :
    eval scope (.call name [target, index] named) = .ok value ↔
      CallGives scope name [target, index] named value := by
  rw [eval]
  unfold evalCall
  simp only [evalEach_eq_map, List.map_cons, List.map_nil]
  -- One case for each form of access; the constructors for the other forms contradict `haccess`.
  cases haccess : Access.ofCall name [target, index] with
  | pronoun p member =>
    obtain rfl := pronoun_member haccess
    cases p with
    | data =>
      simp only [bind_eq_ok, blame_eq_ok]
      constructor
      · rintro ⟨_, -, ⟨⟩⟩
      · intro h
        cases h <;> simp_all
    | env =>
      simp only [bind_eq_ok, blame_eq_ok, Scope.binding_eq_ok]
      constructor
      · rintro ⟨chosen, hchosen, hbound⟩
        exact .binding rfl haccess hchosen hbound
      · intro h
        cases h <;> simp_all
  | member key =>
    cases key with
    | none =>
      simp only [bind_eq_ok, blame_eq_ok]
      constructor
      · rintro ⟨_, -, ⟨⟩⟩
      · intro h
        cases h <;> simp_all
    | some key =>
      simp only [bind_eq_ok, blame_eq_ok]
      constructor
      · rintro ⟨whole, hwhole, hfound⟩
        exact .member rfl haccess hwhole hfound
      · intro h
        cases h <;> simp_all
  | element =>
    simp only [bind_eq_ok, blame_eq_ok]
    constructor
    · rintro ⟨whole, hwhole, position, hposition, hfound⟩
      exact .element rfl haccess hwhole hposition hfound
    · intro h
      cases h <;> simp_all
  | subset =>
    simp only [bind_eq_ok, blame_eq_ok]
    constructor
    · rintro ⟨whole, hwhole, position, hposition, hfound⟩
      exact .subset rfl haccess hwhole hposition hfound
    · intro h
      cases h <;> simp_all
  | qualified inner =>
    simp only [blame_eq_ok, Scope.lookup_eq_ok]
    constructor
    · intro hbound
      exact .qualified haccess hbound
    · intro h
      cases h <;> simp_all
  | function => exact absurd haccess hfunction

theorem eval_call {value : Value} :
    eval scope (.call name args named) = .ok value ↔ CallGives scope name args named value := by
  by_cases hfunction : Access.ofCall name args = .function
  · rw [eval, evalCall_function hfunction]
    simp only [bind_eq_ok, blame_eq_ok, allValues_evalEach, allNamedValues_evalEachNamed]
    constructor
    · rintro ⟨values, hvalues, namedValues, ⟨hkeys, hnamed⟩, hresult⟩
      exact .function hfunction hvalues hkeys hnamed hresult
    · intro h
      cases h with
      | function _ hvalues hkeys hnamed hresult =>
        exact ⟨_, hvalues, _, ⟨hkeys, hnamed⟩, hresult⟩
      | _ => simp_all
  · obtain ⟨target, index, rfl⟩ := (access_cases name args).resolve_left hfunction
    exact eval_pair hfunction

end Calls

/-! ## Evaluation with more bindings -/

/-- Every binding of the first scope is one of the second, and both have the same clock. -/
structure Scope.IsWithin (scope larger : Scope) : Prop where
  now : larger.now = scope.now
  get? : ∀ name value, scope.env.get? name = some value → larger.env.get? name = some value

theorem pronounMember_mono {e member : Expr} {x y : Except Error Value} {chosen : String}
    (h : ∀ value, x = .ok value → y = .ok value) (hx : pronounMember e member x = .ok chosen) :
    pronounMember e member y = .ok chosen := by
  unfold pronounMember at hx ⊢
  split at hx
  · exact hx
  · obtain ⟨value, hvalue, hx⟩ := bind_eq_ok.1 hx
    exact bind_eq_ok.2 ⟨value, h value hvalue, hx⟩

theorem Valued.mono {scope larger : Scope} {args : List Expr} {values : List Value}
    (ih : ∀ e ∈ args, ∀ value, eval scope e = .ok value → eval larger e = .ok value)
    (h : Valued scope args values) : Valued larger args values := by
  induction h with
  | nil => exact .nil
  | cons hvalue _ ihrest =>
    rw [List.forall_mem_cons] at ih
    exact .cons (ih.1 _ hvalue) (ihrest ih.2)

theorem eval_mono {scope larger : Scope} (h : scope.IsWithin larger) {e : Expr} {value : Value}
    (hvalue : eval scope e = .ok value) : eval larger e = .ok value := by
  induction e using Expr.induction generalizing value with
  | literal l => exact hvalue
  | vector items => exact hvalue
  | symbol name =>
    rw [eval, blame_eq_ok, Scope.lookup_eq_ok] at hvalue ⊢
    exact h.get? name value hvalue
  | call name args named ihargs ihnamed =>
    rw [eval_call] at hvalue ⊢
    cases hvalue with
    | @binding target member chosen pair access choice bound =>
      have hmember := @ihargs member (by simp [pair])
      exact .binding pair access (pronounMember_mono @hmember choice) (h.get? _ _ bound)
    | member pair access target found =>
      refine .member pair access (ihargs _ (by simp [pair]) target) found
    | element pair access target index found =>
      exact .element pair access (ihargs _ (by simp [pair]) target)
        (ihargs _ (by simp [pair]) index) found
    | subset pair access target index found =>
      exact .subset pair access (ihargs _ (by simp [pair]) target)
        (ihargs _ (by simp [pair]) index) found
    | qualified access bound => exact .qualified access (h.get? _ _ bound)
    | function access valued keys namedValued result =>
      refine .function access (valued.mono fun e he _ ↦ ihargs e he) keys
        (namedValued.mono (List.forall_mem_map.2 fun entry hentry _ ↦ ihnamed entry hentry)) ?_
      rw [h.now]
      exact result

/-! ## Plain values in place of expressions -/

theorem Valued.forall_value {scope : Scope} {p : Value → Prop} {args : List Expr}
    {values : List Value} (ih : ∀ e ∈ args, ∀ value, eval scope e = .ok value → p value)
    (h : Valued scope args values) : ∀ value ∈ values, p value := by
  induction h with
  | nil => simp
  | cons hvalue _ ihrest =>
    rw [List.forall_mem_cons] at ih
    exact List.forall_mem_cons.2 ⟨ih.1 _ hvalue, ihrest ih.2⟩

theorem Valued.forall_mem {scope : Scope} {p : Expr → Prop} {args : List Expr}
    {values : List Value} (h : Valued scope args values)
    (ih : ∀ e ∈ args, ∀ value, eval scope e = .ok value → p e) : ∀ e ∈ args, p e := by
  induction h with
  | nil => exact List.forall_mem_nil _
  | cons hvalue _ ihrest =>
    rw [List.forall_mem_cons] at ih
    exact List.forall_mem_cons.2 ⟨ih.1 _ hvalue, ihrest ih.2⟩

/-- A plain expression has a plain value over plain bindings. -/
theorem eval_isPlain {scope : Scope} (henv : ∀ entry ∈ scope.env, entry.2.isPlain = true)
    {e : Expr} {value : Value} (he : isPlainExpr e = true) (h : eval scope e = .ok value) :
    value.isPlain = true := by
  induction e using Expr.induction generalizing value with
  | literal l => cases h; exact isPlain_ofLiteral l
  | vector items => cases h; exact he
  | symbol name =>
    rw [eval, blame_eq_ok, Scope.lookup_eq_ok] at h
    exact isPlain_of_get? henv h
  | call name args named ihargs ihnamed =>
    obtain ⟨hname, hargs, hnamed⟩ := isPlainExpr_call.1 he
    have hplain (e : Expr) (hmem : e ∈ args) {value : Value} (hvalue : eval scope e = .ok value) :
        value.isPlain = true := ihargs e hmem (hargs e hmem) hvalue
    cases eval_call.1 h with
    | binding pair access choice bound => exact isPlain_of_get? henv bound
    | member pair access target found =>
      exact memberOf_isPlain (hplain _ (by simp [pair]) target) found
    | element pair access target index found =>
      exact elementOf_isPlain (hplain _ (by simp [pair]) target) found
    | subset pair access target index found =>
      exact subset_isPlain (hplain _ (by simp [pair]) target) found
    | qualified access bound => exact isPlain_of_get? henv bound
    | function access valued keys namedValued result =>
      exact callLocal_isPlain hname (valued.forall_value fun e he _ ↦ hplain e he) result

/-- A plain value is read back from the constant that stands for it. -/
theorem eval_toExpr {value : Value} {e : Expr} (hplain : value.isPlain = true)
    (h : value.toExpr = .ok e) (scope : Scope) : eval scope e = .ok value := by
  unfold Value.toExpr at h
  split at h
  · rename_i single
    cases h
    have hsingle : single ≠ .null := isPlain_atomic.1 hplain single (by simp)
    cases single with
    | null => exact absurd rfl hsingle
    | _ => rfl
  · cases h; rfl
  · cases hplain
  · cases hplain
  · cases h; rfl
  · cases h

/-! ## Folding over other columns -/

section Columns

variable {scope scope' : Scope} (henv : scope'.env = scope.env) (hnow : scope'.now = scope.now)

theorem foldAll_congr {args : List Expr} {folded : List Folded}
    (ih : ∀ e ∈ args, ∀ f, fold scope e = .ok f → fold scope' e = .ok f)
    (h : foldAll scope args = .ok folded) : foldAll scope' args = .ok folded := by
  induction args generalizing folded with
  | nil => exact h
  | cons e rest ihrest =>
    rw [List.forall_mem_cons] at ih
    obtain ⟨f, hf, h⟩ := bind_eq_ok.1 h
    obtain ⟨later, hlater, h⟩ := bind_eq_ok.1 h
    exact bind_eq_ok.2 ⟨f, ih.1 f hf, bind_eq_ok.2 ⟨later, ihrest ih.2 hlater, h⟩⟩

theorem foldNamed_congr {named : List (String × Expr)} {folded : List (String × Folded)}
    (ih : ∀ entry ∈ named, ∀ f, fold scope entry.2 = .ok f → fold scope' entry.2 = .ok f)
    (h : foldNamed scope named = .ok folded) : foldNamed scope' named = .ok folded := by
  induction named generalizing folded with
  | nil => exact h
  | cons entry rest ihrest =>
    rw [List.forall_mem_cons] at ih
    obtain ⟨f, hf, h⟩ := bind_eq_ok.1 h
    obtain ⟨later, hlater, h⟩ := bind_eq_ok.1 h
    exact bind_eq_ok.2 ⟨f, ih.1 f hf, bind_eq_ok.2 ⟨later, ihrest ih.2 hlater, h⟩⟩

include henv hnow

theorem foldLocal_congr {name : String} {args : List Expr} {named : List (String × Expr)}
    {f : Folded} (h : foldLocal scope name args named = .ok f) :
    foldLocal scope' name args named = .ok f := by
  have hwithin : scope.IsWithin scope' := ⟨hnow, fun name value hget ↦ henv ▸ hget⟩
  unfold foldLocal at h ⊢
  dsimp only at h ⊢
  split at h
  · obtain ⟨chosen, hchosen, h⟩ := bind_eq_ok.1 h
    exact bind_eq_ok.2 ⟨chosen, pronounMember_mono (fun _ ↦ eval_mono hwithin) hchosen, h⟩
  · obtain ⟨value, hvalue, h⟩ := bind_eq_ok.1 h
    exact bind_eq_ok.2 ⟨value, eval_mono hwithin hvalue, h⟩

/-- Folding depends on columns only as far as names of the expression are columns. -/
theorem fold_congr {e : Expr} {f : Folded}
    (hcolumns : ∀ name ∈ e.references, scope'.isColumn name = scope.isColumn name)
    (h : fold scope e = .ok f) : fold scope' e = .ok f := by
  induction e using Expr.induction generalizing f with
  | literal | vector => exact h
  | symbol name =>
    rw [fold, foldSymbol] at h ⊢
    rwa [hcolumns name (List.mem_singleton_self name), henv]
  | call name args named ihargs ihnamed =>
    rw [Expr.forall_mem_references_call] at hcolumns
    rw [fold] at h ⊢
    split at h
    · rename_i hlocal
      rw [if_pos hlocal]
      exact foldLocal_congr henv hnow h
    · rename_i hremote
      rw [if_neg hremote]
      obtain ⟨folded, hfolded, h⟩ := bind_eq_ok.1 h
      obtain ⟨foldedNamed, hfoldedNamed, h⟩ := bind_eq_ok.1 h
      have hargs : foldAll scope' args = .ok folded :=
        foldAll_congr (fun e he f ↦ ihargs e he (hcolumns.1 e he)) hfolded
      have hnamed : foldNamed scope' named = .ok foldedNamed :=
        foldNamed_congr (fun entry hentry f ↦ ihnamed entry hentry (hcolumns.2 entry hentry))
          hfoldedNamed
      have hcall : foldCall scope' (.call name args named) name folded foldedNamed = .ok f := by
        rwa [foldCall, callFolded?, hnow]
      exact bind_eq_ok.2 ⟨folded, hargs, bind_eq_ok.2 ⟨foldedNamed, hnamed, hcall⟩⟩

theorem partialEval_congr {e residual : Expr}
    (hcolumns : ∀ name ∈ e.references, scope'.isColumn name = scope.isColumn name)
    (h : partialEval scope e = .ok residual) : partialEval scope' e = .ok residual := by
  obtain ⟨f, hf, h⟩ := bind_eq_ok.1 h
  exact bind_eq_ok.2 ⟨f, fold_congr henv hnow hcolumns hf, h⟩

end Columns

end SqlVerbs.Local
