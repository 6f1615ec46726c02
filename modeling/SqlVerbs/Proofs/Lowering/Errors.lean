import SqlVerbs.Proofs.Lowering.Nodes

/-!
# The errors of lowering

Lowering fails for a few reasons: no rule of the function takes this many arguments, the function
has no rule and may not be passed through, an argument has not the form that the rule asks for, or
the dialect lacks what the rule needs. There is no other error, unless the ordering fails with one.
-/

namespace SqlVerbs

/-- Is this an error of lowering? -/
def Error.IsLowering : Error → Prop
  | .arityMismatch .. | .unknownFunction _ | .invalidFunctionName _ | .unsupported ..
  | .invalidArgument .. => True
  | _ => False

namespace Noted

variable {α β : Type}

/-- If there is an error, it has this property. -/
def Raises (p : Error → Prop) (x : Noted α) : Prop := ∀ e, x = .error e → p e

namespace Raises

variable {p : Error → Prop}

theorem pure (a : α) : Raises p (Pure.pure a) := nofun

theorem fail {e : Error} (h : p e) : Raises p (Noted.fail e : Noted α) := by
  rintro _ ⟨⟩
  exact h

theorem warn (warnings : List Warning) : Raises p (Noted.warn warnings) := nofun

theorem bind {x : Noted α} {f : α → Noted β} (hx : Raises p x) (hf : ∀ a, Raises p (f a)) :
    Raises p (x >>= f) := by
  match x with
  | .error e => exact fail (hx e rfl)
  | .ok (a, warnings) =>
    intro e h
    change Noted.bind (.ok (a, warnings)) f = _ at h
    rw [Noted.bind] at h
    split at h
    · rename_i hfa
      cases h
      exact hf a e hfa
    · cases h

theorem all {items : List (Noted α)} (h : ∀ x ∈ items, Raises p x) :
    Raises p (Noted.all items) := by
  induction items with
  | nil => exact .pure []
  | cons x rest ih =>
    rw [List.forall_mem_cons] at h
    exact .bind h.1 fun a ↦ .bind (ih h.2) fun as ↦ .pure (a :: as)

theorem optional {x : Option (Noted α)} (h : ∀ y ∈ x, Raises p y) :
    Raises p (Noted.optional x) := by
  cases x with
  | none => exact .pure none
  | some y => exact .bind (h y rfl) fun a ↦ .pure (some a)

end Raises

/-- If there is an error, it is one of lowering. -/
abbrev IsSound (x : Noted α) : Prop := Raises Error.IsLowering x

end Noted

namespace Lowering

open Noted (IsSound)

/-! ## Arguments -/

/-- The argument fails with errors of lowering only, and so do its own arguments. -/
structure Operand.IsSound (operand : Operand) : Prop where
  result : operand.result.IsSound
  sides : ∀ side ∈ operand.sides, side.IsSound

/-- All arguments of the call fail with errors of lowering only. -/
structure Call.IsSound (call : Call) : Prop where
  slots : ∀ slot ∈ call.slots, ∀ operand ∈ slot, operand.IsSound
  keywords : ∀ entry ∈ call.keywords, entry.2.IsSound

namespace Call.IsSound

variable {call : Call}

variable (h : call.IsSound)

include h

theorem of_operand? {index : Nat} {operand : Operand} (hop : call.operand? index = some operand) :
    operand.IsSound := by
  rw [operand?, Option.join_eq_some_iff] at hop
  exact h.slots _ (List.mem_of_getElem? hop) _ rfl

theorem operand (index : Nat) {α : Type} {f : Operand → Noted α}
    (hf : ∀ operand : Operand, operand.IsSound → (f operand).IsSound) :
    (call.operand index >>= f).IsSound := by
  rw [Call.operand]
  split
  · rename_i operand hop
    rw [pure_bind]
    exact hf operand (h.of_operand? hop)
  · exact .fail trivial

theorem arg (index : Nat) : (call.arg index).IsSound := h.operand index fun _ hop ↦ hop.result

theorem arg? (index : Nat) : (call.arg? index).IsSound := by
  refine .optional fun x hx ↦ ?_
  obtain ⟨operand, hop, rfl⟩ := Option.map_eq_some_iff.1 hx
  exact (h.of_operand? hop).result

theorem args : call.args.IsSound := by
  refine .all fun x hx ↦ ?_
  obtain ⟨index, -, rfl⟩ := List.mem_map.1 hx
  exact h.arg index

theorem keyword {name : String} {operand : Operand}
    (hop : call.keywords.get? name = some operand) : operand.result.IsSound :=
  (h.keywords _ (Bindings.mem_of_get? hop)).result

end Call.IsSound

/-! ## Rules -/

section Rules

theorem overWindow_isSound (cx : Context) (source : Host.Expr) (fn : Sql.Expr)
    (order : List Sql.Expr) (frame : Option Sql.Frame) :
    (overWindow cx source fn order frame).IsSound := by
  rw [overWindow]
  split
  · exact .fail trivial
  · exact .bind (.warn _) fun _ ↦ .pure _

theorem branchesFrom_isSound (call : Call) (index : Nat) {slots : List (Option Operand)}
    (h : ∀ slot ∈ slots, ∀ operand ∈ slot, operand.IsSound) :
    (branchesFrom call index slots).IsSound := by
  induction slots generalizing index with
  | nil => exact .pure _
  | cons slot later ih =>
    rw [List.forall_mem_cons] at h
    rw [branchesFrom]
    split
    · exact .fail trivial
    · rename_i branch hbranch
      obtain ⟨operand, hoperand, hbranch⟩ := Option.bind_eq_some_iff.1 hbranch
      have hsides := (h.1 operand hoperand).sides
      rw [operand.sides_of_branch? hbranch, List.forall_mem_cons, List.forall_mem_singleton]
        at hsides
      obtain ⟨hcond, hvalue⟩ := hsides
      split
      · exact .bind hvalue fun value ↦ .pure _
      · refine .bind hcond fun cond ↦ .bind hvalue fun value ↦ ?_
        exact .bind (ih (index + 1) h.2) fun rest ↦ .pure _

variable {cx : Context} {ordering : Noted (List Sql.Expr)} (hordering : ordering.IsSound)

include hordering

theorem aggregate_isSound (fn : Sql.Expr) : (aggregate cx ordering fn).IsSound := by
  rw [aggregate]
  split
  · exact .pure fn
  · split
    · exact .fail trivial
    · split
      · exact .bind hordering fun order ↦ .pure _
      · exact .pure _

variable {call : Call} (h : call.IsSound)

include h

theorem ranking_isSound (fn : Sql.Expr) : (ranking cx ordering call fn).IsSound := by
  refine .bind (h.arg? 0) fun term ↦ .bind ?_ fun order ↦ overWindow_isSound cx _ fn order _
  cases term with
  | none => exact hordering
  | some term => exact .pure [term]

theorem keywordOrder_isSound : (call.keywordOrder ordering).IsSound := by
  rw [Call.keywordOrder]
  split
  · rename_i operand hoperand
    exact .bind (h.keyword hoperand) fun term ↦ .pure [term]
  · exact hordering

theorem buckets_isSound : (buckets cx ordering call).IsSound := by
  refine h.operand 1 fun count _ ↦ ?_
  split
  · split
    · exact ranking_isSound hordering h _
    · exact .fail trivial
  · exact .fail trivial

/-- A rule fails with errors of lowering only, if the ordering and the arguments do. -/
theorem applyRule_isSound (kind : RuleKind) : (applyRule cx ordering call kind).IsSound := by
  -- Most kinds take their first operands in order and then build a result that cannot fail.
  have hone {f : Sql.Expr → Noted Sql.Expr} (hf : ∀ a, (f a).IsSound) :
      (call.arg 0 >>= f).IsSound := .bind (h.arg 0) hf
  have htwo {f : Sql.Expr → Sql.Expr → Noted Sql.Expr} (hf : ∀ a b, (f a b).IsSound) :
      (call.arg 0 >>= fun a ↦ call.arg 1 >>= f a).IsSound :=
    hone fun a ↦ .bind (h.arg 1) (hf a)
  have hrunning (fn : Sql.Expr) : (running cx ordering call fn).IsSound :=
    .bind hordering fun order ↦ overWindow_isSound cx _ fn order _
  cases kind with
  | infixOp | elemOf | integerDivide | power | logBase | regex => exact htwo fun _ _ ↦ .pure _
  | not | negate | cast | isNull | desc => exact hone fun _ ↦ .pure _
  | identity => exact h.arg 0
  | scalar | combine => exact .bind h.args fun _ ↦ .pure _
  | aggregate | countDistinct | median => exact hone fun _ ↦ aggregate_isSound hordering _
  | countAll => exact aggregate_isSound hordering _
  | cumulative => exact hone fun _ ↦ hrunning _
  | cumulativeProduct => exact hone fun _ ↦ .bind (hrunning _) fun _ ↦ .pure _
  | ranking => exact ranking_isSound hordering h _
  | ntile => exact buckets_isSound hordering h
  | offset =>
    refine hone fun value ↦ .bind (h.arg? 2) fun default ↦ .bind (h.arg? 1) fun distance ↦ ?_
    exact .bind (keywordOrder_isSound hordering h) fun order ↦ overWindow_isSound cx _ _ order _
  | positional =>
    refine hone fun value ↦ .bind (h.arg? 1) fun position ↦ ?_
    exact .bind (keywordOrder_isSound hordering h) fun order ↦ overWindow_isSound cx _ _ order _
  | conditional => exact htwo fun _ _ ↦ .bind (h.arg? 2) fun _ ↦ .pure _
  | caseWhen =>
    refine .bind (branchesFrom_isSound call 1 h.slots) fun branches ↦ .bind (.optional ?_) ?_
    · intro x hx
      obtain ⟨operand, hop, rfl⟩ := Option.map_eq_some_iff.1 hx
      exact h.keyword hop
    · intro default
      split
      · exact .fail trivial
      · exact .pure _
  | between => exact htwo fun _ _ ↦ .bind (h.arg 2) fun _ ↦ .pure _
  | modulo =>
    refine h.operand 0 fun dividend hdividend ↦ h.operand 1 fun divisor hdivisor ↦ ?_
    refine .bind hdividend.result fun left ↦ .bind hdivisor.result fun right ↦ ?_
    split
    · split <;> exact .pure _
    · exact .pure _
  | raw =>
    refine h.operand 0 fun text _ ↦ ?_
    split
    · exact .pure _
    · exact .fail trivial
  | substr =>
    refine htwo fun text start ↦ .bind (h.arg 2) fun stop ↦ ?_
    refine h.operand 1 fun first _ ↦ h.operand 2 fun last _ ↦ ?_
    split
    · split
      · exact .pure _
      · exact .bind (.fail trivial) fun _ ↦ .pure _
    · exact .pure _
  | round => exact hone fun _ ↦ .bind (h.arg? 1) fun _ ↦ .pure _
  | paste =>
    refine .bind ?_ fun separator ↦ .bind h.args fun args ↦ .pure _
    rw [Call.separator]
    split
    · exact .pure _
    · exact .fail trivial
    · exact .pure _
  | unsupported => exact .fail trivial

end Rules

/-! ## Whole expressions -/

section Expressions

variable {cx : Context} {ordering : Noted (List Sql.Expr)}

theorem passThrough_isSound {name : String} {args : List Operand} {named : List (String × Operand)}
    (hargs : ∀ operand ∈ args, operand.IsSound) (hnamed : ∀ entry ∈ named, entry.2.IsSound) :
    (passThrough cx name args named).IsSound := by
  rw [passThrough]
  split
  · exact .fail trivial
  · split
    · exact .fail trivial
    · have hresults : ∀ x ∈ (args ++ Bindings.values named).map Operand.result, x.IsSound := by
        rw [List.forall_mem_map, List.forall_mem_append, Bindings.values, List.forall_mem_map]
        exact ⟨fun operand hop ↦ (hargs operand hop).result,
          fun entry hentry ↦ (hnamed entry hentry).result⟩
      exact .bind (.all hresults) fun args ↦ .pure _

theorem lowerCall_isSound (hordering : ordering.IsSound) {source : Host.Expr} {name : String}
    {args : List Operand} {named : List (String × Operand)}
    (hargs : ∀ operand ∈ args, operand.IsSound) (hnamed : ∀ entry ∈ named, entry.2.IsSound) :
    (lowerCall cx ordering source name args named).IsSound := by
  rw [lowerCall]
  split
  · exact passThrough_isSound hargs hnamed
  · split
    · rename_i hresolved
      obtain ⟨hslots, hkeywords⟩ := resolveRule_forall hargs hnamed hresolved
      exact .bind (.warn _) fun _ ↦ applyRule_isSound hordering ⟨hslots, hkeywords⟩ _
    · exact .fail trivial

/-- An expression fails with errors of lowering only, if the ordering does. -/
theorem lowerOperand_isSound (hordering : ordering.IsSound) (e : Host.Expr) :
    (lowerOperand cx ordering e).IsSound := by
  induction e using Host.Expr.induction with
  | literal | vector | symbol => exact ⟨.pure _, nofun⟩
  | call name args named ihargs ihnamed =>
    rw [lowerOperand_call]
    constructor
    · exact lowerCall_isSound hordering (List.forall_mem_map.2 ihargs)
        (List.forall_mem_map.2 ihnamed)
    · exact List.forall_mem_map.2 fun e he ↦ (ihargs e he).result

end Expressions

end Lowering

end SqlVerbs
