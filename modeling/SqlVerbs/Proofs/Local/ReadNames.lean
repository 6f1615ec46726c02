import SqlVerbs.Proofs.Local.Agreement

/-!
# The names that evaluation looks up

Not every symbol of an expression is looked up: the name of a member is only spelled, and so is a
namespace. What is looked up is bound locally if the expression has a value. If it is folded, each
such name is bound locally or left in what goes to the backend.
-/

namespace SqlVerbs.Local

open Host (Expr)

/-- The names that a call looks up, from those that its arguments look up. -/
def Access.reads (args named : List (List String)) : Access → List String
  | .pronoun _ chosen =>
    match spelledName? chosen with
    | some name => [name]
    | none => args.tail.flatten
  | .member _ => args.head?.getD []
  | .element | .subset => args.flatten
  | .qualified name => [name]
  | .function => args.flatten ++ named.flatten

mutual

/-- The names that an expression looks up. -/
def readNames : Expr → List String
  | .symbol name => [name]
  | .call name args named =>
    (Access.ofCall name args).reads (readNamesEach args) (readNamesNamed named)
  | _ => []

/-- The names that several expressions look up. -/
def readNamesEach : List Expr → List (List String)
  | [] => []
  | e :: rest => readNames e :: readNamesEach rest

/-- The names that named arguments look up. -/
def readNamesNamed : List (String × Expr) → List (List String)
  | [] => []
  | (_, e) :: rest => readNames e :: readNamesNamed rest

end

/-- The symbols of an expression that are never looked up. -/
def unreadNames (e : Expr) : List String :=
  e.references.filter fun name ↦ !(readNames e).contains name

section Calls

variable {scope : Scope} {name : String} {args : List Expr} {named : List (String × Expr)}

theorem readNames_call (name : String) (args : List Expr) (named : List (String × Expr)) :
    readNames (.call name args named) = (Access.ofCall name args).reads (args.map readNames)
      (named.map fun entry ↦ readNames entry.2) := by
  have hargs (args : List Expr) : readNamesEach args = args.map readNames := by
    induction args with
    | nil => rfl
    | cons e rest ih => rw [readNamesEach, ih, List.map_cons]
  have hnamed (named : List (String × Expr)) :
      readNamesNamed named = named.map fun entry ↦ readNames entry.2 := by
    induction named with
    | nil => rfl
    | cons entry rest ih => rw [readNamesNamed, ih, List.map_cons]
  rw [readNames, hargs, hnamed]

theorem forall_mem_readNames_function {p : String → Prop}
    (h : Access.ofCall name args = .function) :
    (∀ x ∈ readNames (.call name args named), p x) ↔
      (∀ e ∈ args, ∀ x ∈ readNames e, p x) ∧ ∀ entry ∈ named, ∀ x ∈ readNames entry.2, p x := by
  rw [readNames_call, h, Access.reads, List.forall_mem_append, List.forall_mem_flatten,
    List.forall_mem_flatten, List.forall_mem_map, List.forall_mem_map]

/-- A name that is chosen by pronoun is spelled out, or what it is computed from has a value. -/
theorem reads_of_pronounMember {e target member : Expr} {p : Pronoun} {chosen : String}
    {named : List (List String)}
    (h : pronounMember e member (eval scope member) = .ok chosen)
    (ih : ∀ value, eval scope member = .ok value →
      ∀ x ∈ readNames member, scope.env.has x = true) :
    ∀ x ∈ (Access.pronoun p member).reads [readNames target, readNames member] named,
      x = chosen ∨ scope.env.has x = true := by
  rw [Access.reads]
  rw [pronounMember] at h
  cases hspelled : spelledName? member with
  | some name =>
    rw [hspelled] at h
    cases h
    simp
  | none =>
    rw [hspelled] at h
    obtain ⟨value, hvalue, -⟩ := bind_eq_ok.1 h
    simpa using fun x hx ↦ Or.inr (ih value hvalue x hx)

/-- Every name that an expression with a value looks up is bound locally. -/
theorem bound_of_eval {e : Expr} {value : Value} (h : eval scope e = .ok value) :
    ∀ x ∈ readNames e, scope.env.has x = true := by
  induction e using Expr.induction generalizing value with
  | literal | vector => nofun
  | symbol name =>
    rw [eval, blame_eq_ok, Scope.lookup_eq_ok] at h
    simp [readNames, Bindings.has, h]
  | call name args named ihargs ihnamed =>
    have hbound {x : String} {value : Value} (h : scope.env.get? x = some value) :
        scope.env.has x = true := by rw [Bindings.has, h]; rfl
    -- The key of a member is not looked up, so each form of access is a case of its own.
    cases eval_call.1 h with
    | @binding target member chosen pair access choice bound =>
      rw [readNames_call, access, pair]
      intro x hx
      obtain rfl | hx := reads_of_pronounMember choice (fun _ ↦ ihargs member (by simp [pair])) x hx
      · exact hbound bound
      · exact hx
    | @member target index key whole pair access htarget found =>
      rw [readNames_call, access, pair]
      exact ihargs target (by simp [pair]) htarget
    | @element target index whole position pair access htarget hindex found =>
      rw [readNames_call, access, pair]
      have htarget := ihargs target (by simp [pair]) htarget
      have hindex := ihargs index (by simp [pair]) hindex
      simpa [Access.reads, or_imp, forall_and] using And.intro htarget hindex
    | @subset target index whole position pair access htarget hindex found =>
      rw [readNames_call, access, pair]
      have htarget := ihargs target (by simp [pair]) htarget
      have hindex := ihargs index (by simp [pair]) hindex
      simpa [Access.reads, or_imp, forall_and] using And.intro htarget hindex
    | qualified access bound =>
      rw [readNames_call, access]
      simpa [Access.reads] using hbound bound
    | function access valued keys namedValued result =>
      rw [forall_mem_readNames_function access]
      have hnamed := namedValued.forall_mem (p := fun e ↦ ∀ x ∈ readNames e, scope.env.has x = true)
        (List.forall_mem_map.2 fun entry hentry _ ↦ ihnamed entry hentry)
      exact ⟨valued.forall_mem fun e he _ ↦ ihargs e he, List.forall_mem_map.1 hnamed⟩

end Calls

/-! ## What folding leaves of the names -/

section Folding

variable {scope : Scope}

/-- What is left of an expression mentions each name that it looks up, except for local bindings. -/
def AccountsFor (scope : Scope) (e : Expr) (f : Folded) : Prop :=
  ∀ r, f.residual = .ok r → ∀ x ∈ readNames e, scope.env.has x = true ∨ x ∈ r.references

theorem residuals_account {args : List Expr} {folded : List Folded} {rs : List Expr}
    (h : List.Forall₂ (AccountsFor scope) args folded) (hrs : residuals folded = .ok rs) :
    ∀ e ∈ args, ∀ x ∈ readNames e, scope.env.has x = true ∨ ∃ r ∈ rs, x ∈ r.references := by
  induction h generalizing rs with
  | nil => exact List.forall_mem_nil _
  | cons hf _ ih =>
    obtain ⟨r, hr, hrs⟩ := bind_eq_ok.1 hrs
    obtain ⟨rest, hrest, hrs⟩ := bind_eq_ok.1 hrs
    cases hrs
    rw [List.forall_mem_cons]
    constructor
    · intro x hx
      exact (hf r hr x hx).imp_right fun hleft ↦ ⟨r, List.mem_cons_self, hleft⟩
    · intro e he x hx
      obtain hbound | ⟨r', hr', hleft⟩ := ih hrest e he x hx
      · exact .inl hbound
      · exact .inr ⟨r', List.mem_cons_of_mem _ hr', hleft⟩

/-- A value accounts for all names. -/
theorem AccountsFor.of_value {e : Expr} {f : Folded} (h : fold scope e = .ok f)
    (hvalue : f.value.isSome = true) : AccountsFor scope e f := by
  obtain ⟨value, hvalue⟩ := Option.isSome_iff_exists.1 hvalue
  exact fun _ _ x hx ↦ .inl (bound_of_eval (fold_givesValue h value hvalue) x hx)

theorem foldSymbol_accountsFor (name : String) :
    AccountsFor scope (.symbol name) (foldSymbol scope name) := by
  have hleft : AccountsFor scope (.symbol name) (.remote (.symbol name) false) := by
    rintro _ ⟨⟩ x hx
    exact .inr hx
  unfold foldSymbol
  split
  · exact hleft
  · split
    · rename_i hvalue
      intro _ _ x hx
      simp only [readNames, List.mem_singleton] at hx
      simp [hx, Bindings.has, hvalue]
    · exact hleft

theorem foldLocal_accountsFor {name : String} {args : List Expr} {named : List (String × Expr)}
    {f : Folded} (h : foldLocal scope name args named = .ok f) :
    AccountsFor scope (.call name args named) f := by
  simp only [foldLocal] at h
  split at h
  · rename_i member haccess
    obtain ⟨chosen, hchosen, h⟩ := bind_eq_ok.1 h
    cases h
    rintro _ ⟨⟩ x hx
    obtain ⟨target, index, rfl⟩ := (access_cases name args).resolve_left (by simp [haccess])
    obtain rfl := pronoun_member haccess
    rw [readNames_call, haccess] at hx
    obtain rfl | hbound := reads_of_pronounMember hchosen (fun _ ↦ bound_of_eval) x hx
    · exact .inr (List.mem_singleton_self x)
    · exact .inl hbound
  · obtain ⟨value, hvalue, h⟩ := bind_eq_ok.1 h
    cases h
    exact fun _ _ x hx ↦ .inl (bound_of_eval hvalue x hx)

theorem rebuild_accountsFor {name : String} {args : List Expr} {named : List (String × Expr)}
    {folded : List Folded} {foldedNamed : List (String × Folded)} {touched : Bool}
    (hname : ¬ alwaysLocal.contains name = true)
    (hargs : List.Forall₂ (AccountsFor scope) args folded)
    (hnamed : List.Forall₂ (AccountsFor scope) (named.map Prod.snd) (foldedNamed.map Prod.snd))
    {f : Folded} (h : rebuild name folded foldedNamed touched = .ok f) :
    AccountsFor scope (.call name args named) f := by
  obtain ⟨rs, hrs, h⟩ := bind_eq_ok.1 h
  obtain ⟨namedRs, hnamedRs, h⟩ := bind_eq_ok.1 h
  cases h
  rintro _ ⟨⟩
  have hreferences := Expr.forall_mem_references_call.1
    fun x (hx : x ∈ (Expr.call name rs namedRs).references) ↦ hx
  rw [forall_mem_readNames_function (access_of_notLocal hname args)]
  constructor
  · intro e he x hx
    refine (residuals_account hargs hrs e he x hx).imp_right ?_
    rintro ⟨r, hr, hleft⟩
    exact hreferences.1 r hr x hleft
  · intro entry hentry x hx
    refine (residuals_account hnamed (residuals_of_namedResiduals hnamedRs) entry.2
      (List.mem_map_of_mem hentry) x hx).imp_right ?_
    rintro ⟨_, hr, hleft⟩
    obtain ⟨left, hmem, rfl⟩ := List.mem_map.1 hr
    exact hreferences.2 left hmem x hleft

theorem fold_accountsFor {e : Expr} {f : Folded} (h : fold scope e = .ok f) :
    AccountsFor scope e f := by
  induction e using Expr.induction generalizing f with
  | literal | vector => cases h; exact fun _ _ ↦ nofun
  | symbol name => cases h; exact foldSymbol_accountsFor name
  | call name args named ihargs ihnamed =>
    cases hvalue : f.value.isSome with
    | true => exact .of_value h hvalue
    | false =>
      rw [fold] at h
      split at h
      · exact foldLocal_accountsFor h
      · rename_i hname
        obtain ⟨folded, hfolded, h⟩ := bind_eq_ok.1 h
        obtain ⟨foldedNamed, hfoldedNamed, h⟩ := bind_eq_ok.1 h
        have hargs := foldAll_forall₂ (fun e he _ hf ↦ ihargs e he hf) hfolded
        have hnamed := foldAll_forall₂ (List.forall_mem_map.2 fun entry he _ hf ↦
          ihnamed entry he hf) (foldAll_of_foldNamed hfoldedNamed)
        simp only [foldCall] at h
        split at h
        · obtain ⟨value, -, h⟩ := bind_eq_ok.1 h
          cases h
          cases hvalue
        · cases h
          cases hvalue
        · exact rebuild_accountsFor hname hargs hnamed h

/-- Each name that an expression looks up is bound locally, or left after folding. -/
theorem partialEval_accounts {e residual : Expr} (h : partialEval scope e = .ok residual) :
    ∀ x ∈ readNames e, scope.env.has x = true ∨ x ∈ residual.references := by
  obtain ⟨f, hf, h⟩ := bind_eq_ok.1 h
  exact fold_accountsFor hf residual h

end Folding

end SqlVerbs.Local
