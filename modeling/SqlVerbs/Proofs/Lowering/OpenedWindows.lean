import SqlVerbs.Proofs.Lowering.Placement
import SqlVerbs.Proofs.Lowering.Shapes

/-!
# Windows that rules open

A rule that opens a window makes the window or the exponential of it. The window is partitioned by
the groups. It is ordered by an argument of the call, if there is one for that, and otherwise by the
ordering of the context, if the rule consults it.
-/

namespace SqlVerbs

namespace Lowering

open Noted (Ensures)
open Sql.Expr (NodeTest Passes)

variable {t : NodeTest}

/-! ## Kinds of rules and the orders of windows -/

/-- Does a rule of this kind make a window? -/
def opensWindow (windowed : Bool) (kind : RuleKind) : Bool :=
  kind.isWindow || windowed && kind.isAggregate

/-- May a rule of this kind consult the order of windows? Aggregates do if there is a frame. -/
def usesOrder (windowed framed : Bool) (kind : RuleKind) : Bool :=
  kind.isWindow || windowed && framed && kind.isAggregate

/-- The argument by which a call states the order of its window itself. -/
def ownOrder? {α : Type} (placement : Placement α) : RuleKind → Option α
  | .ranking _ | .ntile => placement.slot? 0
  | .offset _ | .positional _ => placement.keywords.get? "order_by"
  | _ => none

theorem ownOrder?_map {α β : Type} (f : α → β) (placement : Placement α) (kind : RuleKind) :
    ownOrder? (placement.map f) kind = (ownOrder? placement kind).map f := by
  cases kind with
  | ranking | ntile => exact placement.slot?_map f 0
  | offset | positional => exact Bindings.get?_mapValues f placement.keywords "order_by"
  | _ => rfl

/-- The order of the window that a call opens: its own, or else that of the context if the rule
consults it. -/
def windowOrder (cx : Context) (ordering : Noted (List Sql.Expr)) (own : Option Operand)
    (kind : RuleKind) : Noted (List Sql.Expr) :=
  match own with
  | some operand => do return [← operand.result]
  | none => if usesOrder cx.windowed cx.frame.isSome kind then ordering else pure []

/-- The arguments of the call in their places. -/
def Call.placement (call : Call) : Placement Operand := ⟨call.slots, call.keywords, []⟩

/-- The tree is the window, or the exponential of it. -/
def Carries (result window : Sql.Expr) : Prop := result = window ∨ result = .call "EXP" [window]

theorem Carries.eq {result window window' : Sql.Expr} (h : Carries result window)
    (h' : Carries result window') (hwindow : window.isWindow = true)
    (hwindow' : window'.isWindow = true) : window = window' := by
  obtain rfl | rfl := h <;> obtain heq | heq := h'
  · exact heq
  · rw [heq] at hwindow
    cases hwindow
  · rw [← heq] at hwindow'
    cases hwindow'
  · simpa [Sql.Expr.call] using heq

/-- The tree is a window over the groups, in this order, of a call that passes. -/
def IsWindowIn (t : NodeTest) (cx : Context) (order : Noted (List Sql.Expr))
    (window : Sql.Expr) : Prop :=
  ∃ fn keys frame, window = .window fn cx.partition keys frame ∧ fn.isAggregateCall = true ∧
    fn.Passes t ∧ order.Yields keys

/-! ## Windows -/

section Windows

variable {cx : Context} {ordering : Noted (List Sql.Expr)} {call : Call} {kind : RuleKind}
  {fn : Sql.Expr} (hcall : fn.isAggregateCall = true) (hfn : fn.Passes t)

include hcall hfn

theorem overWindow_window (source : Host.Expr) (order : Noted (List Sql.Expr))
    (frame : Option Sql.Frame) :
    Ensures (IsWindowIn t cx order) (order >>= fun keys ↦ overWindow cx source fn keys frame) := by
  refine .bind (.yields order) (fun keys hkeys ↦ ?_)
  rw [overWindow]
  split
  · exact .fail _
  · exact .bind (.trivial _) (fun _ _ ↦ .pure ⟨fn, keys, frame, rfl, hcall, hfn, hkeys⟩)

theorem ranking_window (hkind : kind.isWindow = true) :
    Ensures (IsWindowIn t cx (windowOrder cx ordering (call.operand? 0) kind))
      (ranking cx ordering call fn) := by
  have horder : (call.arg? 0 >>= orderOr ordering) =
      windowOrder cx ordering (call.operand? 0) kind := by
    rw [Call.arg?]
    cases call.operand? 0 with
    | none => simp [Noted.optional, orderOr, windowOrder, usesOrder, hkind]
    | some operand => simp [Noted.optional, orderOr, windowOrder]
  rw [ranking, ← bind_assoc, horder]
  exact overWindow_window hcall hfn _ _ _

theorem keywordOrder_window (hkind : kind.isWindow = true) (source : Host.Expr)
    (frame : Option Sql.Frame) :
    Ensures (IsWindowIn t cx (windowOrder cx ordering (call.keywords.get? "order_by") kind))
      (call.keywordOrder ordering >>= fun keys ↦ overWindow cx source fn keys frame) := by
  have horder : call.keywordOrder ordering =
      windowOrder cx ordering (call.keywords.get? "order_by") kind := by
    rw [Call.keywordOrder]
    cases call.keywords.get? "order_by" with
    | none => simp [windowOrder, usesOrder, hkind]
    | some operand => rfl
  rw [horder]
  exact overWindow_window hcall hfn _ _ _

theorem aggregate_window (hwindowed : cx.windowed = true) (hkind : kind.isAggregate = true)
    (hplain : kind.isWindow = false) :
    Ensures (IsWindowIn t cx (windowOrder cx ordering none kind)) (aggregate cx ordering fn) := by
  rw [aggregate, hwindowed, Bool.not_true, if_neg Bool.false_ne_true]
  split
  · exact .fail _
  · cases hframe : cx.frame with
    | none =>
      refine .pure ⟨fn, [], none, rfl, hcall, hfn, [], ?_⟩
      simp [windowOrder, usesOrder, hplain, hframe]
      rfl
    | some frame =>
      have horder : windowOrder cx ordering none kind = ordering := by
        simp [windowOrder, usesOrder, hwindowed, hkind, hframe]
      rw [horder]
      exact .bind (.yields ordering)
        (fun keys hkeys ↦ .pure ⟨fn, keys, some frame, rfl, hcall, hfn, hkeys⟩)

end Windows

section Rules

variable {cx : Context} {ordering : Noted (List Sql.Expr)} {call : Call} {kind : RuleKind}
  (h : call.Upholds t)

include h

theorem buckets_window :
    Ensures (IsWindowIn t cx (windowOrder cx ordering (call.operand? 0) .ntile))
      (buckets cx ordering call) := by
  refine .bind (h.operand 1) (fun count _ ↦ ?_)
  split
  · split
    · exact ranking_window rfl (by simp [Sql.Expr.call]) rfl
    · exact .fail _
  · exact .fail _

theorem offset_window (fn : String) :
    Ensures (IsWindowIn t cx
      (windowOrder cx ordering (call.keywords.get? "order_by") (.offset fn)))
        (offset cx ordering call fn) := by
  refine .bind (h.arg 0) (fun value hvalue ↦ .bind (h.arg? 2) (fun default hdefault ↦ ?_))
  refine .bind (h.arg? 1) (fun distance hdistance ↦ keywordOrder_window rfl ?_ rfl _ _)
  cases distance <;> cases default <;> simp_all [Sql.Expr.call, wholeNumber_passes]

theorem positional_window (fn : String) :
    Ensures (IsWindowIn t cx
      (windowOrder cx ordering (call.keywords.get? "order_by") (.positional fn)))
        (positional cx ordering call fn) := by
  refine .bind (h.arg 0) (fun value hvalue ↦ .bind (h.arg? 1) (fun position hposition ↦ ?_))
  refine keywordOrder_window rfl ?_ rfl _ _
  cases position <;> simp_all [Sql.Expr.call, wholeNumber_passes]

/-- A rule that opens a window makes one in the order that the call has. -/
theorem applyRule_window (hkind : opensWindow cx.windowed kind = true) :
    Ensures (fun result ↦ ∃ window,
        IsWindowIn t cx (windowOrder cx ordering (ownOrder? call.placement kind) kind) window ∧
          Carries result window)
      (applyRule cx ordering call kind) := by
  have hwindowed (haggregate : kind.isAggregate = true) (hplain : kind.isWindow = false) :
      cx.windowed = true := by
    simpa [opensWindow, haggregate, hplain] using hkind
  -- All windows but that of a product are what the call becomes.
  have hitself {order : Noted (List Sql.Expr)} {x : Noted Sql.Expr}
      (hx : Ensures (IsWindowIn t cx order) x) :
      Ensures (fun result ↦ ∃ window, IsWindowIn t cx order window ∧ Carries result window) x :=
    .mono hx (fun window hwindow ↦ ⟨window, hwindow, .inl rfl⟩)
  cases kind with
  | aggregate fn =>
    refine hitself (.bind (h.arg 0) (fun e he ↦ ?_))
    exact aggregate_window rfl (by simpa [Sql.Expr.call] using he) (hwindowed rfl rfl) rfl rfl
  | countAll =>
    exact hitself (aggregate_window rfl (by simp [Sql.Expr.call]) (hwindowed rfl rfl) rfl rfl)
  | countDistinct =>
    refine hitself (.bind (h.arg 0) (fun e he ↦ ?_))
    exact aggregate_window rfl (by simpa using he) (hwindowed rfl rfl) rfl rfl
  | median =>
    refine hitself (.bind (h.arg 0) (fun e he ↦ ?_))
    exact aggregate_window rfl (by simpa [Sql.Expr.call] using he) (hwindowed rfl rfl) rfl rfl
  | cumulative fn =>
    refine hitself (.bind (h.arg 0) (fun e he ↦ ?_))
    exact overWindow_window rfl (by simpa [Sql.Expr.call] using he) _ ordering _
  | cumulativeProduct =>
    refine .bind (h.arg 0) (fun e he ↦ ?_)
    have hlogs : Passes t (.call "SUM" [.call "LN" [e]]) := by simpa [Sql.Expr.call] using he
    exact .bind (overWindow_window rfl hlogs _ ordering _)
      (fun sum hsum ↦ .pure ⟨sum, hsum, .inr rfl⟩)
  | ranking fn => exact hitself (ranking_window rfl (by simp [Sql.Expr.call]) rfl)
  | ntile => exact hitself (buckets_window h)
  | offset fn => exact hitself (offset_window h fn)
  | positional fn => exact hitself (positional_window h fn)
  | _ => simp [opensWindow, RuleKind.isWindow, RuleKind.isAggregate] at hkind

theorem windowOrder_passes {kind : RuleKind}
    (hordering : usesOrder cx.windowed cx.frame.isSome kind = true →
      Ensures (∀ e ∈ ·, Passes t e) ordering) :
    Ensures (∀ e ∈ ·, Passes t e)
      (windowOrder cx ordering (ownOrder? call.placement kind) kind) := by
  cases hown : ownOrder? call.placement kind with
  | some operand =>
    have hoperand : operand.Upholds t := by
      unfold ownOrder? at hown
      split at hown
      · exact h.of_operand? hown
      · exact h.of_operand? hown
      · exact h.of_keyword hown
      · exact h.of_keyword hown
      · cases hown
    exact .bind hoperand.1 (fun e he ↦ .pure (by simpa using he))
  | none =>
    rw [windowOrder]
    split
    · exact hordering ‹_›
    · exact .pure (by simp)

end Rules

end Lowering

end SqlVerbs
