import SqlVerbs.Lowering.Expr
import SqlVerbs.Proofs.Local.Names
import SqlVerbs.Proofs.Lowering.OpenedWindows

/-!
# The nodes of lowered expressions

The columns and windows in what a host expression becomes are the columns that its symbols become,
the windows that its calls open, and what these are partitioned and ordered by. So whatever holds of
those holds of every column and every window.
-/

namespace SqlVerbs

namespace Lowering

open Noted (Ensures)
open Sql.Expr (NodeTest Passes)

variable {t : NodeTest}

/-! ## What rules make -/

section Rules

variable {cx : Context} {ordering : Noted (List Sql.Expr)} {call : Call} (h : call.Upholds t)

include h

/-- Rules that open no window make columns and windows of none but their arguments. -/
theorem applyRule_plain_passes {kind : RuleKind} (hkind : opensWindow cx.windowed kind = false) :
    Ensures (Passes t) (applyRule cx ordering call kind) := by
  -- Most kinds take one or two arguments and put a fixed shape around them.
  have hone {f : Sql.Expr → Sql.Expr} (hf : ∀ e, Passes t e → Passes t (f e)) :
      Ensures (Passes t) (call.arg 0 >>= fun e ↦ pure (f e)) :=
    .bind (h.arg 0) (fun e he ↦ .pure (hf e he))
  have htwo {f : Sql.Expr → Sql.Expr → Sql.Expr}
      (hf : ∀ a b, Passes t a → Passes t b → Passes t (f a b)) :
      Ensures (Passes t) (call.arg 0 >>= fun a ↦ call.arg 1 >>= fun b ↦ pure (f a b)) :=
    .bind (h.arg 0) (fun a ha ↦ .bind (h.arg 1) (fun b hb ↦ .pure (hf a b ha hb)))
  -- Outside of a windowed context, an aggregate stays a plain call.
  have hplain {fn : Sql.Expr} (hfn : fn.Passes t) (haggregate : kind.isAggregate = true) :
      Ensures (Passes t) (aggregate cx ordering fn) := by
    have hwindowed : cx.windowed = false := by
      rw [opensWindow, haggregate, Bool.and_true, Bool.or_eq_false_iff] at hkind
      exact hkind.2
    rw [aggregate, hwindowed]
    exact .pure hfn
  cases kind with
  | infixOp op => exact htwo (fun a b ha hb ↦ by simp [ha, hb])
  | not => exact hone (fun e he ↦ by simpa using he)
  | negate => exact hone (fun e he ↦ negated_passes he)
  | identity => exact h.arg 0
  | scalar fn => exact .bind h.args (fun args hargs ↦ .pure (by simpa [Sql.Expr.call] using hargs))
  | aggregate fn =>
    refine .bind (h.arg 0) (fun e he ↦ hplain ?_ rfl)
    simpa [Sql.Expr.call] using he
  | countAll => exact hplain (by simp [Sql.Expr.call]) rfl
  | countDistinct => exact .bind (h.arg 0) (fun e he ↦ hplain (by simpa using he) rfl)
  | median =>
    refine .bind (h.arg 0) (fun e he ↦ hplain ?_ rfl)
    simpa [Sql.Expr.call] using he
  | cumulative | cumulativeProduct | ranking | ntile | offset | positional => cases hkind
  | cast type => exact hone (fun e he ↦ by simpa using he)
  | conditional =>
    refine .bind (h.arg 0) (fun cond hcond ↦ .bind (h.arg 1) (fun value hvalue ↦ ?_))
    refine .bind (h.arg? 2) (fun otherwise hotherwise ↦ .pure ?_)
    simpa [hcond, hvalue] using hotherwise
  | caseWhen => exact caseWhen_passes h
  | between =>
    refine .bind (h.arg 0) (fun e he ↦ .bind (h.arg 1) (fun low hlow ↦ ?_))
    exact .bind (h.arg 2) (fun high hhigh ↦ .pure (by simp [he, hlow, hhigh]))
  | elemOf => exact htwo (fun a b ha hb ↦ membership_passes ha hb)
  | isNull => exact hone (fun e he ↦ by simpa using he)
  | modulo => exact modulo_passes h cx
  | integerDivide => exact htwo (fun a b ha hb ↦ by simp [Sql.Expr.call, ha, hb])
  | power => exact htwo (fun a b ha hb ↦ by simp [Sql.Expr.call, ha, hb])
  | logBase style => exact htwo (fun a b ha hb ↦ logarithm_passes style ha hb)
  | regex token => exact htwo (fun a b ha hb ↦ by simp [ha, hb])
  | combine => exact .bind h.args (fun args hargs ↦ .pure (by simpa using hargs))
  | desc => exact hone (fun e he ↦ by simpa using he)
  | raw =>
    refine .bind (h.operand 0) (fun operand _ ↦ ?_)
    split
    · exact .pure (by simp)
    · exact .fail _
  | substr fn => exact slice_passes h fn
  | round =>
    refine .bind (h.arg 0) (fun x hx ↦ .bind (h.arg? 1) (fun digits hdigits ↦ .pure ?_))
    cases digits <;> simp_all [Sql.Expr.call, wholeNumber_passes]
  | paste separator style =>
    refine .bind (.trivial _) (fun separator _ ↦ .bind h.args (fun args hargs ↦ .pure ?_))
    exact joined_passes style separator hargs
  | unsupported feature => exact .fail _


/-- What a rule makes passes if what its arguments become does, and the window does that it
opens. -/
theorem applyRule_passes {kind : RuleKind}
    (hgroups : opensWindow cx.windowed kind = true → ∀ group ∈ cx.groups, t.column none group)
    (hordering : usesOrder cx.windowed cx.frame.isSome kind = true →
      Ensures (∀ e ∈ ·, Passes t e) ordering)
    (hwindow : opensWindow cx.windowed kind = true → ∀ result window, window.isWindow = true →
      (applyRule cx ordering call kind).Yields result → Carries result window → t.window window) :
    Ensures (Passes t) (applyRule cx ordering call kind) := by
  cases hkind : opensWindow cx.windowed kind with
  | false => exact applyRule_plain_passes h hkind
  | true =>
    intro result warnings hresult
    obtain ⟨window, ⟨fn, keys, frame, rfl, hcall, hfn, hkeys⟩, hcarries⟩ :=
      applyRule_window h hkind result warnings hresult
    have hpartition : ∀ e ∈ cx.partition, Passes t e := by
      simpa [Context.partition, Sql.Expr.column] using hgroups hkind
    have hpasses : Passes t (.window fn cx.partition keys frame) := by
      rw [Sql.Expr.passes_window]
      exact ⟨hwindow hkind result _ rfl ⟨warnings, hresult⟩ hcarries, hfn, hpartition,
        (windowOrder_passes h hordering).of_yields hkeys⟩
    obtain rfl | rfl := hcarries
    · exact hpasses
    · simpa [Sql.Expr.call] using hpasses

end Rules

/-! ## Whole expressions -/

theorem lowerOperands_eq_map (cx : Context) (ordering : Noted (List Sql.Expr))
    (args : List Host.Expr) :
    lowerOperands cx ordering args = args.map (lowerOperand cx ordering) := by
  induction args with
  | nil => rfl
  | cons e rest ih => rw [lowerOperands, ih, List.map_cons]

theorem lowerNamedOperands_eq_map (cx : Context) (ordering : Noted (List Sql.Expr))
    (named : List (String × Host.Expr)) :
    lowerNamedOperands cx ordering named =
      named.map (fun entry ↦ (entry.1, lowerOperand cx ordering entry.2)) := by
  induction named with
  | nil => rfl
  | cons entry rest ih => rw [lowerNamedOperands, ih, List.map_cons]

@[simp]
theorem lowerOperand_source (cx : Context) (ordering : Noted (List Sql.Expr)) (e : Host.Expr) :
    (lowerOperand cx ordering e).source = e := by
  cases e <;> simp [lowerOperand]

theorem lowerOperand_call (cx : Context) (ordering : Noted (List Sql.Expr)) (name : String)
    (args : List Host.Expr) (named : List (String × Host.Expr)) :
    lowerOperand cx ordering (.call name args named) =
      ⟨.call name args named,
        lowerCall cx ordering (.call name args named) name (args.map (lowerOperand cx ordering))
          (Bindings.mapValues (lowerOperand cx ordering) named),
        args.map fun e ↦ (lowerOperand cx ordering e).result⟩ := by
  rw [lowerOperand, lowerOperands_eq_map, lowerNamedOperands_eq_map, List.map_map]
  rfl

/-- The rule for a call, with the arguments in their places. -/
def Context.ruleFor? (cx : Context) : Host.Expr → Option (Rule × Placement Host.Expr)
  | .call name args named => (cx.dialect.rulesFor name).bind (resolveRule args named)
  | _ => none

/-- The rule for a call is one of the function that is called. -/
theorem Context.mem_of_ruleFor? {cx : Context} {c : Host.Expr}
    {found : Rule × Placement Host.Expr} (h : cx.ruleFor? c = some found) :
    ∃ function ∈ c.calls, found.1 ∈ (cx.dialect.rulesFor function).getD [] := by
  match c with
  | .literal _ | .vector _ | .symbol _ => cases h
  | .call name args named =>
    obtain ⟨rules, hrules, hresolved⟩ := Option.bind_eq_some_iff.1 h
    refine ⟨name, List.mem_cons_self, ?_⟩
    simpa [hrules] using mem_of_resolveRule hresolved

/-- Does the call open a window? -/
def Context.opensAt (cx : Context) (c : Host.Expr) : Bool :=
  (cx.ruleFor? c).any (fun found ↦ opensWindow cx.windowed found.1.kind)

/-- Does the rule for the call consult the order of windows? -/
def Context.consultsAt (cx : Context) (c : Host.Expr) : Bool :=
  (cx.ruleFor? c).any (fun found ↦ usesOrder cx.windowed cx.frame.isSome found.1.kind)

/-- The term by which the call states the order of its window itself. -/
def Context.ownOrder? (cx : Context) (c : Host.Expr) : Option Host.Expr :=
  (cx.ruleFor? c).bind (fun found ↦ Lowering.ownOrder? found.2 found.1.kind)

/-- The call opens this window: it becomes the window, or the exponential of it. -/
structure Context.Opens (cx : Context) (ordering : Noted (List Sql.Expr)) (c : Host.Expr)
    (window : Sql.Expr) : Prop where
  opensAt : cx.opensAt c = true
  isWindow : window.isWindow = true
  result : ∃ result, (lowerWith cx ordering c).Yields result ∧ Carries result window

/-- The order of the window that the call opens. -/
def Context.orderAt (cx : Context) (ordering : Noted (List Sql.Expr)) (c : Host.Expr) :
    Noted (List Sql.Expr) :=
  match cx.ownOrder? c with
  | some term => do return [← lowerWith cx ordering term]
  | none => if cx.consultsAt c then ordering else pure []

section Expressions

variable {cx : Context} {ordering : Noted (List Sql.Expr)}

/-- The call as its rule sees it. -/
def placedCall (cx : Context) (ordering : Noted (List Sql.Expr)) (name : String) (c : Host.Expr)
    (placement : Placement Host.Expr) : Call where
  name := name
  source := c
  slots := (placement.map (lowerOperand cx ordering)).slots
  keywords := (placement.map (lowerOperand cx ordering)).keywords

theorem ownOrder?_placedCall (name : String) (c : Host.Expr) (placement : Placement Host.Expr)
    (kind : RuleKind) :
    Lowering.ownOrder? (placedCall cx ordering name c placement).placement kind =
      (Lowering.ownOrder? placement kind).map (lowerOperand cx ordering) := by
  rw [← ownOrder?_map]
  cases kind <;> rfl

variable {name : String} {args : List Host.Expr} {named : List (String × Host.Expr)}

theorem lowerWith_of_ruleFor? {rule : Rule} {placement : Placement Host.Expr}
    (h : cx.ruleFor? (.call name args named) = some (rule, placement)) :
    lowerWith cx ordering (.call name args named) =
      (Noted.warn (placement.ignored.map (Warning.namedArgumentIgnored name)) >>= fun _ ↦
        applyRule cx ordering (placedCall cx ordering name (.call name args named) placement)
          rule.kind) := by
  obtain ⟨rules, hrules, hresolved⟩ := Option.bind_eq_some_iff.1 h
  rw [lowerWith, lowerOperand_call]
  dsimp only
  rw [lowerCall, hrules]
  dsimp only
  rw [resolveRule_map, hresolved]
  rfl

theorem lowerWith_of_no_rule (h : cx.ruleFor? (.call name args named) = none) :
    lowerWith cx ordering (.call name args named) =
        passThrough cx name (args.map (lowerOperand cx ordering))
          (Bindings.mapValues (lowerOperand cx ordering) named) ∨
      ∃ e, lowerWith cx ordering (.call name args named) = Noted.fail e := by
  rw [lowerWith, lowerOperand_call]
  dsimp only
  rw [lowerCall]
  cases hrules : cx.dialect.rulesFor name with
  | none => exact .inl rfl
  | some rules =>
    have hresolved : resolveRule args named rules = none := by
      simpa [Context.ruleFor?, hrules] using h
    dsimp only
    rw [resolveRule_map, hresolved]
    exact .inr ⟨_, rfl⟩

theorem passThrough_passes {args : List Operand} {named : List (String × Operand)}
    (hargs : ∀ operand ∈ args, operand.Upholds t)
    (hnamed : ∀ entry ∈ named, entry.2.Upholds t) :
    Ensures (Passes t) (passThrough cx name args named) := by
  rw [passThrough]
  split
  · exact .fail _
  · split
    · exact .fail _
    · have hresults : ∀ x ∈ (args ++ Bindings.values named).map Operand.result,
          Ensures (Passes t) x := by
        simp only [List.map_append, List.forall_mem_append, Bindings.values, List.map_map,
          List.forall_mem_map]
        exact ⟨fun operand hop ↦ (hargs operand hop).1,
          fun entry hentry ↦ (hnamed entry hentry).1⟩
      exact .bind (.all hresults) (fun args hargs ↦ .pure (by simpa [Sql.Expr.call] using hargs))

/-- What there is for the window of a call to mention passes, and so does the window. -/
structure Context.Allows (cx : Context) (t : NodeTest) (ordering : Noted (List Sql.Expr))
    (c : Host.Expr) : Prop where
  groups : cx.opensAt c = true → ∀ group ∈ cx.groups, t.column none group
  order : cx.consultsAt c = true → Ensures (∀ e ∈ ·, Passes t e) ordering
  window : ∀ window, cx.Opens ordering c window → t.window window

theorem lowerCall_passes (h : cx.Allows t ordering (.call name args named))
    (hargs : ∀ e ∈ args, (lowerOperand cx ordering e).Upholds t)
    (hnamed : ∀ entry ∈ named, (lowerOperand cx ordering entry.2).Upholds t) :
    Ensures (Passes t) (lowerWith cx ordering (.call name args named)) := by
  cases hrule : cx.ruleFor? (.call name args named) with
  | none =>
    obtain hpass | ⟨e, hfail⟩ := @lowerWith_of_no_rule cx ordering name args named hrule
    · rw [hpass]
      apply passThrough_passes
      · exact List.forall_mem_map.2 hargs
      · exact List.forall_mem_map.2 hnamed
    · rw [hfail]
      exact .fail e
  | some found =>
    obtain ⟨rule, placement⟩ := found
    have hlowered := @lowerWith_of_ruleFor? cx ordering name args named rule placement hrule
    have hopens (hkind : opensWindow cx.windowed rule.kind = true) :
        cx.opensAt (.call name args named) = true := by
      rwa [Context.opensAt, hrule]
    have hconsults (hkind : usesOrder cx.windowed cx.frame.isSome rule.kind = true) :
        cx.consultsAt (.call name args named) = true := by
      rwa [Context.consultsAt, hrule]
    obtain ⟨rules, -, hresolved⟩ := Option.bind_eq_some_iff.1 hrule
    obtain ⟨hslots, hkeywords⟩ := resolveRule_forall hargs hnamed hresolved
    have hupholds : (placedCall cx ordering name (.call name args named) placement).Upholds t := by
      refine ⟨List.forall_mem_map.2 fun slot hslot ↦ ?_, List.forall_mem_map.2 hkeywords⟩
      cases slot with
      | none => simp
      | some e => simpa using hslots _ hslot e rfl
    rw [hlowered]
    refine .bind (.trivial _) (fun _ _ ↦ applyRule_passes hupholds
      (fun hkind ↦ h.groups (hopens hkind)) (fun hkind ↦ h.order (hconsults hkind)) ?_)
    intro hkind result window hwindow hresult hcarries
    refine h.window window ⟨hopens hkind, hwindow, result, ?_, hcarries⟩
    rw [hlowered, Noted.yields_warn]
    exact hresult

/-- Columns and windows in what an expression becomes pass, if the columns of its symbols do, and
what its calls make. -/
theorem lowerOperand_passes {e : Host.Expr} (h : ∀ c ∈ e.subterms, cx.Allows t ordering c)
    (hcolumns : ∀ name ∈ e.references, t.column none name) :
    (lowerOperand cx ordering e).Upholds t := by
  induction e using Host.Expr.induction with
  | literal value => exact ⟨.pure (by simp), by simp [lowerOperand]⟩
  | vector items => exact ⟨.pure (by simp), by simp [lowerOperand]⟩
  | symbol name =>
    refine ⟨.pure ?_, by simp [lowerOperand]⟩
    simpa [Sql.Expr.column] using hcolumns name (by simp [Host.Expr.references])
  | call name args named ihargs ihnamed =>
    rw [Host.Expr.forall_mem_subterms_call] at h
    rw [Host.Expr.forall_mem_references_call] at hcolumns
    have hargs := fun e he ↦ ihargs e he (h.2.1 e he) (hcolumns.1 e he)
    have hnamed := fun entry hentry ↦
      ihnamed entry hentry (h.2.2 entry hentry) (hcolumns.2 entry hentry)
    refine ⟨lowerCall_passes h.1 hargs hnamed, ?_⟩
    rw [lowerOperand_call]
    exact List.forall_mem_map.2 fun e he ↦ (hargs e he).1

theorem orderAt_of_ruleFor? {c : Host.Expr} {rule : Rule} {placement : Placement Host.Expr}
    (h : cx.ruleFor? c = some (rule, placement)) :
    cx.orderAt ordering c = windowOrder cx ordering
      ((Lowering.ownOrder? placement rule.kind).map (lowerOperand cx ordering)) rule.kind := by
  simp only [Context.orderAt, Context.ownOrder?, Context.consultsAt, h, Option.bind_some,
    Option.any_some]
  cases Lowering.ownOrder? placement rule.kind <;> rfl

/-- The window that a call opens is one over the groups, in the order that the call has. -/
theorem Context.Opens.isWindowIn {c : Host.Expr} {window : Sql.Expr}
    (h : cx.Opens ordering c window) : IsWindowIn .any cx (cx.orderAt ordering c) window := by
  obtain ⟨hopens, hwindow, result, hresult, hcarries⟩ := h
  match c with
  | .literal _ | .vector _ | .symbol _ => cases hopens
  | .call name args named =>
    obtain ⟨⟨rule, placement⟩, hrule, hkind⟩ := (Option.any_eq_true _ _).1 hopens
    rw [lowerWith_of_ruleFor? hrule, Noted.yields_warn] at hresult
    obtain ⟨made, hmade, hcarried⟩ :=
      (applyRule_window (Call.upholds_any _) hkind).of_yields hresult
    have hmadeWindow : made.isWindow = true := by
      obtain ⟨fn, keys, frame, rfl, -⟩ := hmade
      rfl
    rw [hcarries.eq hcarried hwindow hmadeWindow, orderAt_of_ruleFor? hrule,
      ← ownOrder?_placedCall]
    exact hmade

/-- Windows are those that calls in the expression open. -/
def Context.openedIn (cx : Context) (ordering : Noted (List Sql.Expr)) (e : Host.Expr) :
    NodeTest where
  column _ _ := True
  window window := ∃ c ∈ e.subterms, cx.Opens ordering c window

/-- Every window in what an expression becomes is one that a call in it opens, if there is none in
the ordering. -/
theorem lowerWith_windows (hordering : Ensures (∀ key ∈ ·, key.isWindowed = false) ordering)
    (e : Host.Expr) :
    Ensures (fun lowered ↦ ∀ window ∈ lowered.parts, window.isWindow = true →
      ∃ c ∈ e.subterms, cx.Opens ordering c window) (lowerWith cx ordering e) := by
  have hallows : ∀ c ∈ e.subterms, cx.Allows (cx.openedIn ordering e) ordering c := by
    refine fun c hc ↦ ⟨fun _ _ _ ↦ trivial, fun _ ↦ ?_, fun window hwindow ↦ ⟨c, hc, hwindow⟩⟩
    exact .mono hordering (fun keys hkeys key hkey ↦
      Sql.Expr.passes_of_isWindowed (hkeys key hkey) (fun _ _ ↦ trivial))
  refine .mono (lowerOperand_passes hallows (fun _ _ ↦ trivial)).1 ?_
  intro lowered hpasses window hmem hwindow
  have hholds := hpasses window hmem
  cases window with
  | window fn partition order frame => exact hholds
  | _ => cases hwindow

end Expressions

end Lowering

end SqlVerbs
