import SqlVerbs.Proofs.Local.Agreement

/-!
# Local failures

A failure is reported on one expression of the tree. All operands that this expression needs have
values, so nothing inside it is to blame: it has no value itself, for the reason that is reported,
or its value is a list in a place that is left for the backend.
-/

namespace SqlVerbs

/-- A computation that fails does so in one of its steps. -/
theorem bind_eq_error {ε α β : Type} {x : Except ε α} {f : α → Except ε β} {err : ε}
    (h : (x >>= f) = .error err) : x = .error err ∨ ∃ a, x = .ok a ∧ f a = .error err := by
  cases x with
  | error e => cases h; exact .inl rfl
  | ok a => exact .inr ⟨a, rfl, h⟩

namespace Local

open Host (Expr)

theorem blame_eq_error {α : Type} {e : Expr} {x : Except Reason α} {err : Error}
    (h : blame e x = .error err) :
    ∃ reason, x = .error reason ∧ err = .localFailure e.deparse reason := by
  cases x with
  | ok a => cases h
  | error reason => exact ⟨reason, rfl, (Except.error.inj h).symm⟩

/-! ## Lists of computations -/

section Lists

variable {α β : Type} {items : List α} {f : α → Except Error β} {err : Error}

/-- The failure of several computations is that of one of them. -/
theorem allValues_error (h : allValues (items.map f) = .error err) :
    ∃ a ∈ items, f a = .error err := by
  induction items with
  | nil => cases h
  | cons a rest ih =>
    obtain ha | ⟨_, -, h⟩ := bind_eq_error h
    · exact ⟨a, List.mem_cons_self, ha⟩
    · obtain hrest | ⟨_, -, h⟩ := bind_eq_error h
      · exact (ih hrest).imp fun _ ↦ And.imp_left (List.mem_cons_of_mem a)
      · cases h

/-- Each of several values is that of one of the computations. -/
theorem allValues_mem {values : List β} (h : allValues (items.map f) = .ok values) {b : β}
    (hb : b ∈ values) : ∃ a ∈ items, f a = .ok b := by
  induction items generalizing values with
  | nil => cases h; cases hb
  | cons a rest ih =>
    obtain ⟨value, hvalue, h⟩ := bind_eq_ok.1 h
    obtain ⟨others, hothers, h⟩ := bind_eq_ok.1 h
    cases h
    obtain rfl | hb := List.mem_cons.1 hb
    · exact ⟨a, List.mem_cons_self, hvalue⟩
    · exact (ih hothers hb).imp fun _ ↦ And.imp_left (List.mem_cons_of_mem a)

theorem allNamedValues_error {named : List (String × α)}
    (h : allNamedValues (named.map fun entry ↦ (entry.1, f entry.2)) = .error err) :
    ∃ a ∈ named.map Prod.snd, f a = .error err := by
  induction named with
  | nil => cases h
  | cons entry rest ih =>
    obtain hentry | ⟨_, -, h⟩ := bind_eq_error h
    · exact ⟨entry.2, List.mem_cons_self, hentry⟩
    · obtain hrest | ⟨_, -, h⟩ := bind_eq_error h
      · exact (ih hrest).imp fun _ ↦ And.imp_left (List.mem_cons_of_mem entry.2)
      · cases h

theorem evalEachNamed_eq_map (scope : Scope) (named : List (String × Expr)) :
    evalEachNamed scope named = named.map fun entry ↦ (entry.1, eval scope entry.2) := by
  induction named with
  | nil => rfl
  | cons entry rest ih => rw [evalEachNamed, ih, List.map_cons]

theorem foldAll_eq_allValues (scope : Scope) (args : List Expr) :
    foldAll scope args = allValues (args.map (fold scope)) := by
  induction args with
  | nil => rfl
  | cons e rest ih => rw [foldAll, ih, List.map_cons, allValues]

theorem foldNamed_eq_allNamedValues (scope : Scope) (named : List (String × Expr)) :
    foldNamed scope named =
      allNamedValues (named.map fun entry ↦ (entry.1, fold scope entry.2)) := by
  induction named with
  | nil => rfl
  | cons entry rest ih => rw [foldNamed, ih, List.map_cons, allNamedValues]

theorem residuals_eq_allValues (folded : List Folded) :
    residuals folded = allValues (folded.map Folded.residual) := by
  induction folded with
  | nil => rfl
  | cons f rest ih => rw [residuals, ih, List.map_cons, allValues]

theorem namedResiduals_eq_allNamedValues (folded : List (String × Folded)) :
    namedResiduals folded =
      allNamedValues (folded.map fun entry ↦ (entry.1, entry.2.residual)) := by
  induction folded with
  | nil => rfl
  | cons entry rest ih => rw [namedResiduals, ih, List.map_cons, allNamedValues]

end Lists

/-! ## Operands -/

/-- The operands of a call whose values its own value needs. The name of a member is spelled, and
so is a name behind its namespace. -/
def Access.operands (args named : List Expr) : Access → List Expr
  | .pronoun _ chosen => if (spelledName? chosen).isSome then [] else [chosen]
  | .member _ => args.take 1
  | .element | .subset => args
  | .qualified _ => []
  | .function => args ++ named

/-- The operands of an expression whose values its own value needs. -/
def operands : Expr → List Expr
  | .call name args named => (Access.ofCall name args).operands args (named.map Prod.snd)
  | _ => []

/-- Has the expression a local value? -/
def Succeeds (scope : Scope) (e : Expr) : Prop := ∃ v, eval scope e = .ok v

/-- An expression is to blame for a failure: it has no value for this reason, although all of its
operands have one. -/
structure FailsItself (scope : Scope) (e : Expr) (reason : Reason) : Prop where
  operands : ∀ o ∈ operands e, Succeeds scope o
  fails : eval scope e = .error (.localFailure e.deparse reason)

section Operands

variable {scope : Scope} {o : Expr} {err : Error} {name : String} {args : List Expr}
  {named : List (String × Expr)}

theorem operands_of_function (h : Access.ofCall name args = .function) :
    operands (.call name args named) = args ++ named.map Prod.snd := by
  rw [operands, h, Access.operands]

theorem operands_subset : operands (.call name args named) ⊆ args ++ named.map Prod.snd := by
  intro o ho
  obtain hfunction | ⟨target, index, rfl⟩ := access_cases name args
  · rwa [operands_of_function hfunction] at ho
  · rw [operands] at ho
    cases haccess : Access.ofCall name [target, index] with
    | pronoun p member =>
      obtain rfl := pronoun_member haccess
      rw [haccess, Access.operands] at ho
      split at ho
      · cases ho
      · simp [List.mem_singleton.1 ho]
    | member _ | element | subset | function | qualified _ =>
      rw [haccess, Access.operands] at ho
      grind

theorem subterms_of_operand (ho : o ∈ args ++ named.map Prod.snd) {s : Expr}
    (hs : s ∈ o.subterms) : s ∈ (Expr.call name args named).subterms := by
  refine Expr.mem_subterms_call.2 (.inr ?_)
  obtain ho | ho := List.mem_append.1 ho
  · exact .inl ⟨o, ho, hs⟩
  · obtain ⟨entry, hentry, rfl⟩ := List.mem_map.1 ho
    exact .inr ⟨entry, hentry, hs⟩

/-! ## Evaluation -/

theorem pronounMember_error {e member : Expr} {computed : Except Error Value}
    (h : pronounMember e member computed = .error err) :
    spelledName? member = none ∧ (computed = .error err ∨
      (∃ v, computed = .ok v) ∧ ∃ reason, err = .localFailure e.deparse reason) := by
  unfold pronounMember at h
  split at h
  · cases h
  · rename_i hspelled
    refine ⟨hspelled, ?_⟩
    obtain hcomputed | ⟨v, hv, h⟩ := bind_eq_error h
    · exact .inl hcomputed
    · split at h
      · cases h
      · obtain ⟨reason, -, herr⟩ := blame_eq_error h
        exact .inr ⟨⟨v, hv⟩, reason, herr⟩

theorem pronounMember_succeeds {e member : Expr} {computed : Except Error Value} {chosen : String}
    (h : pronounMember e member computed = .ok chosen) (hspelled : spelledName? member = none) :
    ∃ v, computed = .ok v := by
  rw [pronounMember, hspelled] at h
  obtain ⟨v, hv, -⟩ := bind_eq_ok.1 h
  exact ⟨v, hv⟩

theorem failsItself_of_error {e : Expr} (h : eval scope e = .error err)
    (hoperands : ∀ o ∈ operands e, Succeeds scope o)
    (herr : ∃ reason, err = .localFailure e.deparse reason) :
    ∃ reason, err = .localFailure e.deparse reason ∧ FailsItself scope e reason := by
  obtain ⟨reason, rfl⟩ := herr
  exact ⟨reason, rfl, hoperands, h⟩

/-- A call that is read off its arguments fails with an operand, or it is to blame itself. -/
theorem eval_pair_error {target index : Expr}
    (hfunction : Access.ofCall name [target, index] ≠ .function)
    (h : eval scope (.call name [target, index] named) = .error err) :
    (∃ o ∈ operands (.call name [target, index] named), eval scope o = .error err) ∨
      ∃ reason, err = .localFailure (Expr.call name [target, index] named).deparse reason ∧
        FailsItself scope (.call name [target, index] named) reason := by
  have hself := failsItself_of_error h
  have hblamed {α : Type} {x : Except Reason α}
      (h : blame (.call name [target, index] named) x = .error err) :
      ∃ reason, err = .localFailure (Expr.call name [target, index] named).deparse reason :=
    (blame_eq_error h).imp fun _ h ↦ h.2
  rw [eval] at h
  unfold evalCall at h
  simp only [evalEach_eq_map, List.map_cons, List.map_nil] at h
  rw [operands] at hself ⊢
  cases haccess : Access.ofCall name [target, index] with
  | pronoun p member =>
    obtain rfl := pronoun_member haccess
    simp only [haccess, Access.operands] at h hself ⊢
    obtain hmember | ⟨chosen, hchosen, h⟩ := bind_eq_error h
    · obtain ⟨hspelled, hmember | ⟨hvalue, herr⟩⟩ := pronounMember_error hmember
      · exact .inl ⟨member, by simp [hspelled], hmember⟩
      · exact .inr (hself (by simpa [hspelled, Succeeds] using hvalue) herr)
    · refine .inr (hself ?_ ?_)
      · split
        · exact List.forall_mem_nil _
        · rename_i hspelled
          exact List.forall_mem_singleton.2
            (pronounMember_succeeds hchosen (by simpa using hspelled))
      · cases p <;> exact hblamed h
  | member key =>
    simp only [haccess, Access.operands] at h hself ⊢
    obtain htarget | ⟨whole, hwhole, h⟩ := bind_eq_error h
    · exact .inl ⟨target, by simp, htarget⟩
    · refine .inr (hself (by simpa using ⟨whole, hwhole⟩) ?_)
      cases key <;> exact hblamed h
  | element | subset =>
    simp only [haccess, Access.operands] at h hself ⊢
    obtain htarget | ⟨whole, hwhole, h⟩ := bind_eq_error h
    · exact .inl ⟨target, by simp, htarget⟩
    · obtain hindex | ⟨position, hposition, h⟩ := bind_eq_error h
      · exact .inl ⟨index, by simp, hindex⟩
      · exact .inr (hself (by simpa using ⟨⟨whole, hwhole⟩, ⟨position, hposition⟩⟩) (hblamed h))
  | qualified inner =>
    simp only [haccess, Access.operands] at h hself ⊢
    exact .inr (hself (List.forall_mem_nil _) (hblamed h))
  | function => exact absurd haccess hfunction

/-- A call without a value has an operand without one, or it is to blame itself. -/
theorem eval_call_error (h : eval scope (.call name args named) = .error err) :
    (∃ o ∈ operands (.call name args named), eval scope o = .error err) ∨
      ∃ reason, err = .localFailure (Expr.call name args named).deparse reason ∧
        FailsItself scope (.call name args named) reason := by
  by_cases hfunction : Access.ofCall name args = .function
  · have hself := failsItself_of_error h
    rw [eval, evalCall_function hfunction] at h
    rw [operands_of_function hfunction] at hself ⊢
    obtain hargs | ⟨values, hvalues, h⟩ := bind_eq_error h
    · rw [evalEach_eq_map] at hargs
      obtain ⟨e, he, hfails⟩ := allValues_error hargs
      exact .inl ⟨e, List.mem_append_left _ he, hfails⟩
    · obtain hnamed | ⟨namedValues, hnamedValues, h⟩ := bind_eq_error h
      · rw [evalEachNamed_eq_map] at hnamed
        obtain ⟨e, he, hfails⟩ := allNamedValues_error hnamed
        exact .inl ⟨e, List.mem_append_right _ he, hfails⟩
      · refine .inr (hself ?_ ((blame_eq_error h).imp fun _ h ↦ h.2))
        rw [allValues_evalEach] at hvalues
        rw [allNamedValues_evalEachNamed] at hnamedValues
        exact List.forall_mem_append.2 ⟨hvalues.forall_mem fun _ _ v hv ↦ ⟨v, hv⟩,
          hnamedValues.2.forall_mem fun _ _ v hv ↦ ⟨v, hv⟩⟩
  · obtain ⟨target, index, rfl⟩ := (access_cases name args).resolve_left hfunction
    exact eval_pair_error hfunction h

/-- The operands of an expression with a value have values. -/
theorem succeeds_of_operand {e : Expr} {v : Value} (h : eval scope e = .ok v) :
    ∀ o ∈ operands e, Succeeds scope o := by
  cases e with
  | literal | vector | symbol => exact List.forall_mem_nil _
  | call name args named =>
    rw [operands]
    cases eval_call.1 h with
    | @binding target member chosen pair access choice bound =>
      rw [access, Access.operands]
      split
      · exact List.forall_mem_nil _
      · rename_i hspelled
        exact List.forall_mem_singleton.2 (pronounMember_succeeds choice (by simpa using hspelled))
    | @member target index key whole pair access htarget found =>
      rw [access, Access.operands, pair]
      simpa using ⟨whole, htarget⟩
    | @element target index whole position pair access htarget hindex found
    | @subset target index whole position pair access htarget hindex found =>
      rw [access, Access.operands, pair]
      simpa using ⟨⟨whole, htarget⟩, ⟨position, hindex⟩⟩
    | qualified access bound =>
      rw [access, Access.operands]
      exact List.forall_mem_nil _
    | function access valued keys namedValued result =>
      rw [access, Access.operands, List.forall_mem_append]
      exact ⟨valued.forall_mem fun _ _ v hv ↦ ⟨v, hv⟩,
        namedValued.forall_mem fun _ _ v hv ↦ ⟨v, hv⟩⟩

/-- An evaluation that fails reports an expression that is to blame. -/
theorem eval_error {e : Expr} (h : eval scope e = .error err) :
    ∃ s ∈ e.subterms, ∃ reason, err = .localFailure s.deparse reason ∧
      FailsItself scope s reason := by
  induction e using Expr.induction with
  | literal | vector => cases h
  | symbol name =>
    refine ⟨.symbol name, Expr.mem_subterms_self _, ?_⟩
    exact failsItself_of_error h (List.forall_mem_nil _) ((blame_eq_error h).imp fun _ h ↦ h.2)
  | call name args named ihargs ihnamed =>
    obtain ⟨o, ho, hfails⟩ | hself := eval_call_error h
    · have hmem := operands_subset ho
      have ih : ∃ s ∈ o.subterms, ∃ reason, err = .localFailure s.deparse reason ∧
          FailsItself scope s reason := by
        obtain hmem | hmem := List.mem_append.1 hmem
        · exact ihargs o hmem hfails
        · obtain ⟨entry, hentry, rfl⟩ := List.mem_map.1 hmem
          exact ihnamed entry hentry hfails
      obtain ⟨s, hs, hblame⟩ := ih
      exact ⟨s, subterms_of_operand hmem hs, hblame⟩
    · exact ⟨_, Expr.mem_subterms_self _, hself⟩

end Operands

/-! ## Folding -/

/-- The expressions that folding walks into. What stands in a form that never reaches the backend
is evaluated instead. -/
inductive Walked (e : Expr) : Expr → Prop where
  | whole : Walked e e
  | argument {name : String} {args : List Expr} {named : List (String × Expr)} {a : Expr}
      (call : Walked e (.call name args named)) (folded : ¬ alwaysLocal.contains name = true)
      (mem : a ∈ args ++ named.map Prod.snd) : Walked e a

/-- An argument of a call that is left for the backend, because the function means something on the
remote side only, or because another argument has no local value. -/
inductive LeftInCall (scope : Scope) (e s : Expr) : Prop where
  | argument {name : String} {args : List Expr} {named : List (String × Expr)}
      (call : Walked e (.call name args named)) (folded : ¬ alwaysLocal.contains name = true)
      (mem : s ∈ args ++ named.map Prod.snd)
      (stays : alwaysRemote.contains name = true ∨
        ∃ a ∈ args ++ named.map Prod.snd, ∃ f, fold scope a = .ok f ∧ f.value = none)

section Folding

variable {scope : Scope} {e : Expr} {err : Error} {name : String} {args : List Expr}
  {named : List (String × Expr)} {folded : List Folded} {foldedNamed : List (String × Folded)}

theorem Walked.of_argument {a c : Expr} (hname : ¬ alwaysLocal.contains name = true)
    (ha : a ∈ args ++ named.map Prod.snd) (h : Walked a c) : Walked (.call name args named) c := by
  induction h with
  | whole => exact .argument .whole hname ha
  | argument _ folded mem ih => exact .argument ih folded mem

theorem LeftInCall.of_argument {a s : Expr} (hname : ¬ alwaysLocal.contains name = true)
    (ha : a ∈ args ++ named.map Prod.snd) (h : LeftInCall scope a s) :
    LeftInCall scope (.call name args named) s := by
  obtain ⟨call, folded, mem, stays⟩ := h
  exact ⟨call.of_argument hname ha, folded, mem, stays⟩

/-- A folded expression with a value is kept as it is. -/
theorem fold_expr {f : Folded} {v : Value} (h : fold scope e = .ok f) (hv : f.value = some v) :
    f.expr = e := by
  cases e with
  | literal | vector => cases h; rfl
  | symbol name =>
    cases h
    unfold foldSymbol at hv ⊢
    repeat' split
    all_goals rfl
  | call name args named =>
    rw [fold] at h
    split at h
    · unfold foldLocal at h
      dsimp only at h
      split at h <;> obtain ⟨_, -, h⟩ := bind_eq_ok.1 h <;> cases h
      · cases hv
      · rfl
    · obtain ⟨folded, -, h⟩ := bind_eq_ok.1 h
      obtain ⟨foldedNamed, -, h⟩ := bind_eq_ok.1 h
      unfold foldCall at h
      dsimp only at h
      split at h
      · obtain ⟨_, -, h⟩ := bind_eq_ok.1 h
        cases h
        rfl
      · cases h
        rfl
      · obtain ⟨_, -, h⟩ := bind_eq_ok.1 h
        obtain ⟨_, -, h⟩ := bind_eq_ok.1 h
        cases h
        cases hv

/-- Only lists cannot be left for the backend. -/
theorem residual_error {f : Folded} (h : f.residual = .error err) :
    f.touched = true ∧ ∃ entries, f.value = some (.list entries) ∧
      err = .localFailure f.expr.deparse .listInSql := by
  unfold Folded.residual at h
  split at h
  · rename_i value hvalue htouched
    obtain ⟨reason, hreason, rfl⟩ := blame_eq_error h
    unfold Value.toExpr at hreason
    split at hreason <;> cases hreason
    exact ⟨htouched, _, hvalue, rfl⟩
  · cases h

theorem fold_of_mem (hargs : foldAll scope args = .ok folded)
    (hnamed : foldNamed scope named = .ok foldedNamed) {f : Folded}
    (hf : f ∈ folded ++ foldedNamed.map Prod.snd) :
    ∃ a ∈ args ++ named.map Prod.snd, fold scope a = .ok f := by
  have hnamed := foldAll_of_foldNamed hnamed
  rw [foldAll_eq_allValues] at hargs hnamed
  obtain hf | hf := List.mem_append.1 hf
  · exact (allValues_mem hargs hf).imp fun _ ↦ And.imp_left (List.mem_append_left _)
  · exact (allValues_mem hnamed hf).imp fun _ ↦ And.imp_left (List.mem_append_right _)

theorem exists_none_of_valuesOf? (h : valuesOf? folded = none) :
    ∃ f ∈ folded, f.value = none := by
  induction folded with
  | nil => cases h
  | cons f rest ih =>
    cases hf : f.value with
    | none => exact ⟨f, List.mem_cons_self, hf⟩
    | some value =>
      have hrest : valuesOf? rest = none := by
        cases hrest : valuesOf? rest with
        | none => rfl
        | some values => simp [valuesOf?, hf, hrest] at h
      exact (ih hrest).imp fun _ ↦ And.imp_left (List.mem_cons_of_mem f)

/-- A call is not evaluated if its function stays remote or an argument has no value. -/
theorem stays_of_callFolded?_eq_none (h : callFolded? scope name folded foldedNamed = none) :
    alwaysRemote.contains name = true ∨
      ∃ f ∈ folded ++ foldedNamed.map Prod.snd, f.value = none := by
  rw [callFolded?] at h
  split at h
  · rename_i hremote
    exact .inl hremote
  · right
    cases hvalues : valuesOf? folded with
    | none =>
      exact (exists_none_of_valuesOf? hvalues).imp fun _ ↦ And.imp_left (List.mem_append_left _)
    | some values =>
      cases hnamedValues : namedValuesOf? foldedNamed with
      | none =>
        have hnone : valuesOf? (foldedNamed.map Prod.snd) = none := by
          rw [valuesOf?_map_snd, hnamedValues, Option.map_none]
        exact (exists_none_of_valuesOf? hnone).imp fun _ ↦ And.imp_left (List.mem_append_right _)
      | some namedValues => simp [hvalues, hnamedValues] at h

theorem rebuild_error {touched : Bool} (h : rebuild name folded foldedNamed touched = .error err) :
    ∃ f ∈ folded ++ foldedNamed.map Prod.snd, f.residual = .error err := by
  obtain h | ⟨_, -, h⟩ := bind_eq_error h
  · rw [residuals_eq_allValues] at h
    exact (allValues_error h).imp fun _ ↦ And.imp_left (List.mem_append_left _)
  · obtain h | ⟨_, -, h⟩ := bind_eq_error h
    · rw [namedResiduals_eq_allNamedValues] at h
      exact (allNamedValues_error h).imp fun _ ↦ And.imp_left (List.mem_append_right _)
    · cases h

/-- What is to blame for a failure of folding: an expression that has no value although all of its
operands have one, or a list. -/
def Blames (scope : Scope) (e s : Expr) (reason : Reason) : Prop :=
  FailsItself scope s reason ∨
    (∀ o ∈ operands s, Succeeds scope o) ∧ (∃ entries, eval scope s = .ok (.list entries)) ∧
      reason = .listInSql ∧ LeftInCall scope e s

theorem Blames.of_argument {a s : Expr} {reason : Reason}
    (hname : ¬ alwaysLocal.contains name = true) (ha : a ∈ args ++ named.map Prod.snd)
    (h : Blames scope a s reason) : Blames scope (.call name args named) s reason :=
  h.imp_right fun ⟨hoperands, hlist, hreason, hleft⟩ ↦
    ⟨hoperands, hlist, hreason, hleft.of_argument hname ha⟩

/-- A form that never reaches the backend fails as its evaluation does. -/
theorem eval_of_foldLocal_error (h : foldLocal scope name args named = .error err) :
    eval scope (.call name args named) = .error err := by
  unfold foldLocal at h
  dsimp only at h
  split at h
  · rename_i member haccess
    obtain hmember | ⟨_, -, h⟩ := bind_eq_error h
    · obtain hfunction | ⟨target, index, rfl⟩ := access_cases name args
      · cases haccess.symm.trans hfunction
      · obtain rfl := pronoun_member haccess
        rw [eval, evalEach_eq_map]
        unfold evalCall
        simp only [haccess, List.map_cons, List.map_nil, hmember]
        rfl
    · cases h
  · obtain h | ⟨_, -, h⟩ := bind_eq_error h
    · exact h
    · cases h

/-- A call whose arguments are folded fails itself, or leaves a list to the backend. -/
theorem foldCall_error (hname : ¬ alwaysLocal.contains name = true)
    (hargs : foldAll scope args = .ok folded) (hnamed : foldNamed scope named = .ok foldedNamed)
    (h : foldCall scope (.call name args named) name folded foldedNamed = .error err) :
    ∃ s ∈ (Expr.call name args named).subterms, ∃ reason, err = .localFailure s.deparse reason ∧
      Blames scope (.call name args named) s reason := by
  unfold foldCall at h
  dsimp only at h
  split at h
  · rename_i result hresult htouched
    obtain h | ⟨_, -, h⟩ := bind_eq_error h
    · obtain ⟨⟨values, hvalues⟩, ⟨namedValues, hnamedValues⟩, heval⟩ :=
        callFolded?_result hname (foldAll_forall₂ (fun _ _ _ ↦ fold_givesValue) hargs)
          (foldNamed_keys hnamed)
          (foldAll_forall₂ (fun _ _ _ ↦ fold_givesValue) (foldAll_of_foldNamed hnamed)) hresult
      have hself := failsItself_of_error (heval.trans h) ?_ ((blame_eq_error h).imp fun _ h ↦ h.2)
      · obtain ⟨reason, herr, hself⟩ := hself
        exact ⟨_, Expr.mem_subterms_self _, reason, herr, .inl hself⟩
      · rw [operands_of_function (access_of_notLocal hname args)]
        exact List.forall_mem_append.2 ⟨hvalues.forall_mem fun _ _ v hv ↦ ⟨v, hv⟩,
          hnamedValues.forall_mem fun _ _ v hv ↦ ⟨v, hv⟩⟩
    · cases h
  · cases h
  · rename_i hnot _
    -- No function was called, so some folded argument is a list that the backend cannot be given.
    obtain ⟨f, hf, hresidual⟩ := rebuild_error h
    obtain ⟨htouched, entries, hvalue, rfl⟩ := residual_error hresidual
    obtain ⟨a, ha, hfold⟩ := fold_of_mem hargs hnamed hf
    have heval : eval scope a = .ok (.list entries) := fold_givesValue hfold _ hvalue
    have hany : (folded.any Folded.touched ||
        foldedNamed.any fun entry ↦ entry.2.touched) = true := by
      rw [Bool.or_eq_true, List.any_eq_true, List.any_eq_true]
      obtain hf | hf := List.mem_append.1 hf
      · exact .inl ⟨f, hf, htouched⟩
      · obtain ⟨entry, hentry, rfl⟩ := List.mem_map.1 hf
        exact .inr ⟨entry, hentry, htouched⟩
    have hnone : callFolded? scope name folded foldedNamed = none :=
      Option.eq_none_iff_forall_ne_some.2 fun result hresult ↦ hnot result hresult hany
    rw [fold_expr hfold hvalue]
    refine ⟨a, subterms_of_operand ha (Expr.mem_subterms_self a), _, rfl,
      .inr ⟨succeeds_of_operand heval, ⟨entries, heval⟩, rfl, ⟨.whole, hname, ha, ?_⟩⟩⟩
    refine (stays_of_callFolded?_eq_none hnone).imp_right fun ⟨g, hg, hgvalue⟩ ↦ ?_
    obtain ⟨b, hb, hfoldb⟩ := fold_of_mem hargs hnamed hg
    exact ⟨b, hb, g, hfoldb, hgvalue⟩

theorem fold_error (h : fold scope e = .error err) :
    ∃ s ∈ e.subterms, ∃ reason, err = .localFailure s.deparse reason ∧
      Blames scope e s reason := by
  induction e using Expr.induction with
  | literal | vector | symbol => cases h
  | call name args named ihargs ihnamed =>
    rw [fold] at h
    split at h
    · obtain ⟨s, hs, reason, herr, hself⟩ := eval_error (eval_of_foldLocal_error h)
      exact ⟨s, hs, reason, herr, .inl hself⟩
    · rename_i hname
      have hargument {a : Expr} (ha : a ∈ args ++ named.map Prod.snd)
          (ih : ∃ s ∈ a.subterms, ∃ reason, err = .localFailure s.deparse reason ∧
            Blames scope a s reason) :
          ∃ s ∈ (Expr.call name args named).subterms, ∃ reason,
            err = .localFailure s.deparse reason ∧
              Blames scope (.call name args named) s reason := by
        obtain ⟨s, hs, reason, herr, hblames⟩ := ih
        exact ⟨s, subterms_of_operand ha hs, reason, herr, hblames.of_argument hname ha⟩
      obtain h | ⟨folded, hfolded, h⟩ := bind_eq_error h
      · rw [foldAll_eq_allValues] at h
        obtain ⟨a, ha, hfails⟩ := allValues_error h
        exact hargument (List.mem_append_left _ ha) (ihargs a ha hfails)
      · obtain h | ⟨foldedNamed, hfoldedNamed, h⟩ := bind_eq_error h
        · rw [foldNamed_eq_allNamedValues] at h
          obtain ⟨a, ha, hfails⟩ := allNamedValues_error h
          obtain ⟨entry, hentry, rfl⟩ := List.mem_map.1 ha
          exact hargument (List.mem_append_right _ ha) (ihnamed entry hentry hfails)
        · exact foldCall_error hname hfolded hfoldedNamed h

end Folding

/-- Local failures name the innermost culprit. Whatever fails is reported on an expression of the
tree whose operands all have values: it fails itself, with the reported reason, or its value is a
list, and it is the whole expression or an argument that is left for the backend. -/
theorem partialEval_error {scope : Scope} {e : Expr} {err : Error}
    (h : partialEval scope e = .error err) :
    ∃ s ∈ e.subterms, ∃ reason, err = .localFailure s.deparse reason ∧
      (∀ o ∈ operands s, Succeeds scope o) ∧
      (eval scope s = .error (.localFailure s.deparse reason) ∨
        (∃ entries, eval scope s = .ok (.list entries)) ∧ reason = .listInSql ∧
          (s = e ∨ LeftInCall scope e s)) := by
  obtain h | ⟨f, hf, h⟩ := bind_eq_error h
  · obtain ⟨s, hs, reason, herr, hself | ⟨hoperands, hlist, hreason, hleft⟩⟩ := fold_error h
    · exact ⟨s, hs, reason, herr, hself.operands, .inl hself.fails⟩
    · exact ⟨s, hs, reason, herr, hoperands, .inr ⟨hlist, hreason, .inr hleft⟩⟩
  · obtain ⟨-, entries, hvalue, rfl⟩ := residual_error h
    have heval : eval scope e = .ok (.list entries) := fold_givesValue hf _ hvalue
    rw [fold_expr hf hvalue]
    exact ⟨e, Expr.mem_subterms_self e, _, rfl, succeeds_of_operand heval,
      .inr ⟨⟨entries, heval⟩, rfl, .inl rfl⟩⟩

/-- In `x + nope(a) * 2L` the unknown function is reported, not the product or the sum. In
`x + rates` the list is. -/
theorem partialEval_error_unknownFunction :
    let scope : Scope :=
      { columns := ["x"]
        env := [("a", .atomic [.integer (some 1)]), ("rates", .list [])]
        now := ⟨⟨2024, 1, 1⟩, 0, 0, 0⟩ }
    let product : Expr := .call "*" [.call "nope" [.symbol "a"] [], .literal (.integer (some 2))] []
    let e : Expr := .call "+" [.symbol "x", product] []
    let err : Error := .localFailure "nope(a)" (.noFunction "nope")
    partialEval scope e = .error err ∧
      (∃ s ∈ e.subterms, ∃ reason, err = .localFailure s.deparse reason ∧
        (∀ o ∈ operands s, Succeeds scope o) ∧
        (eval scope s = .error (.localFailure s.deparse reason) ∨
          (∃ entries, eval scope s = .ok (.list entries)) ∧ reason = .listInSql ∧
            (s = e ∨ LeftInCall scope e s))) ∧
      partialEval scope (.call "+" [.symbol "x", .symbol "rates"] []) =
        .error (.localFailure "rates" .listInSql) := by
  intro scope product e err
  have herror : partialEval scope e = .error err := rfl
  exact ⟨herror, partialEval_error herror, rfl⟩

end Local

end SqlVerbs
