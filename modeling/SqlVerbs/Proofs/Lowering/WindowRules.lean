import SqlVerbs.Proofs.Lowering.Termination
import SqlVerbs.Proofs.Lowering.Windowing

/-!
# Calls without window rules

A function may have rules that always open a window and others that do not, and which of them
applies is settled at each call. Where no window rule applies, the order of the context is of no use
to an expression unless there is a frame: it is not consulted, and what it would become, be it an
error, does not show. Outside of windows, groups and frame are of no use either, and there are no
windows at all. Nor are there any for a dialect without windows, since every rule that would open
one fails.
-/

namespace SqlVerbs

namespace Lowering

open Noted (Ensures)

/-- Is the rule for the call one that always opens a window? -/
def Context.callsWindow (cx : Context) (c : Host.Expr) : Bool :=
  (cx.ruleFor? c).any fun found ↦ found.1.kind.isWindow

variable {cx : Context} {e : Host.Expr}

theorem Context.kind_of_callsWindow {c : Host.Expr} (h : cx.callsWindow c = false) {rule : Rule}
    {placement : Placement Host.Expr} (hrule : cx.ruleFor? c = some (rule, placement)) :
    rule.kind.isWindow = false := by
  rwa [callsWindow, hrule] at h

theorem Context.consultsAt_eq_false {c : Host.Expr} (hwindow : cx.callsWindow c = false)
    (hframe : (cx.windowed && cx.frame.isSome) = false) : cx.consultsAt c = false := by
  rw [consultsAt, Option.any_eq_false]
  intro found hrule
  simp [usesOrder, kind_of_callsWindow hwindow hrule, hframe]

/-- Aggregates do not reach the ordering unless they are windows with a frame. -/
theorem Context.reachesOrdering_eq_false (hwindow : ∀ c ∈ e.subterms, cx.callsWindow c = false)
    (hframe : (cx.windowed && cx.frame.isSome) = false) : cx.reachesOrdering e = false := by
  refine List.any_eq_false.2 fun c hc ↦ ?_
  simp [consultsOrdering, consultsAt_eq_false (hwindow c hc) hframe]

/-- A rule looks at the ordering terms only through the ordering that they become. -/
theorem applyRule_order (order : List Host.Expr) (ordering : Noted (List Sql.Expr)) (call : Call)
    (kind : RuleKind) :
    applyRule { cx with order } ordering call kind = applyRule cx ordering call kind := by
  cases kind <;> rfl

theorem lowerOperand_order (order : List Host.Expr) (ordering : Noted (List Sql.Expr)) :
    lowerOperand { cx with order } ordering e = lowerOperand cx ordering e :=
  lowerOperand_eq_of_agreeAt fun _ _ ↦ agreeAt_of_ruleFor? rfl rfl fun rule _ _ _ call _ _ ↦
    applyRule_order order ordering call rule.kind

/-- The hints of a context have no influence on an expression to whose calls no window rule applies.
Without a frame it becomes the same, with the same warnings or the same error, whatever the ordering
terms are; outside of windows also whatever the groups and the frame are. -/
theorem lower_ignores_hints (cx : Context) (e : Host.Expr)
    (hwindow : ∀ c ∈ e.subterms, cx.callsWindow c = false) :
    (cx.frame = none → ∀ order, lower { cx with order } e = lower cx e) ∧
      (cx.windowed = false → ∀ groups order frame,
        lower { cx with groups, order, frame } e = lower cx e) := by
  refine ⟨fun hframe order ↦ ?_, fun hplain groups order frame ↦ ?_⟩
  · have hreaches : cx.reachesOrdering e = false :=
      Context.reachesOrdering_eq_false hwindow (by simp [hframe])
    rw [lower, lowerWith, lowerOperand_order, lowerOperand_ordering _ (orderTerms cx) hreaches]
    rfl
  · refine congrArg Operand.result (lowerOperand_eq_of_agreeAt fun c hc ↦ ?_)
    refine agreeAt_of_ruleFor? rfl rfl fun rule placement hrule _ call _ _ ↦ ?_
    have hkind := Context.kind_of_callsWindow (hwindow c hc) hrule
    exact applyRule_plain (by rfl) hplain (by exact hplain) hkind call

/-- The part of a sale in the sales of its shop. The ordering term cannot be lowered, since `lag`
has no value to take from another row. -/
theorem lower_ignores_hints_shares :
    let share : Host.Expr := .call "/" [.symbol "price", .call "sum" [.symbol "price"] []] []
    let total : Sql.Expr := .call "SUM" [.column "price"]
    let tree (total : Sql.Expr) : Sql.Expr := .binary (.column "price") .div total
    let order : List Host.Expr := [.call "lag" [] []]
    let cx : Context := { dialect := .ansi, groups := ["shop"], windowed := true }
    let plain : Context := { dialect := .ansi }
    (∀ c ∈ share.subterms, cx.callsWindow c = false) ∧
      orderTerms { cx with order } = .error (.arityMismatch "lag" [.between 1 3] 0) ∧
      lower { cx with order } share = .ok (tree (.window total [.column "shop"] [] none), []) ∧
      lower { plain with groups := ["shop"], order, frame := some .full } share =
        .ok (tree total, []) := by
  intro share total tree order cx plain
  have hwindow : ∀ c ∈ share.subterms, cx.callsWindow c = false := by decide
  obtain ⟨hordered, -⟩ := lower_ignores_hints cx share hwindow
  obtain ⟨-, hplain⟩ := lower_ignores_hints plain share hwindow
  exact ⟨hwindow, rfl, (hordered rfl order).trans rfl, (hplain rfl _ _ _).trans rfl⟩

/-- In a frame the order matters. -/
example : lower
      { dialect := .ansi, windowed := true, order := [.symbol "day"], frame := some .full }
      (.call "sum" [.symbol "price"] []) =
      .ok (.window (.call "SUM" [.column "price"]) [] [.column "day"] (some .full), []) := rfl

/-! ## Trees without windows -/

/-- There is no window in what an expression becomes if no call in it opens one. -/
theorem lowerWith_windowless {ordering : Noted (List Sql.Expr)}
    (hordering : Ensures (∀ key ∈ ·, key.isWindowed = false) ordering)
    (h : ∀ c ∈ e.subterms, ∀ window, ¬ cx.Opens ordering c window) :
    Ensures (fun lowered ↦ lowered.isWindowed = false) (lowerWith cx ordering e) := by
  refine .mono (lowerWith_windows hordering e) fun lowered hlowered ↦ ?_
  rw [Sql.Expr.isWindowed_eq_any, List.any_eq_false]
  intro window hmem hwindow
  obtain ⟨c, hc, hopens⟩ := hlowered window hmem hwindow
  exact h c hc window hopens

/-- Outside of windows, an expression becomes one without windows if no window rule applies to the
calls in it. -/
theorem lower_windowless_of_plain (hplain : cx.windowed = false)
    (hwindow : ∀ c ∈ e.subterms, cx.callsWindow c = false) :
    Ensures (fun lowered ↦ lowered.isWindowed = false) (lower cx e) := by
  have hreaches : cx.reachesOrdering e = false :=
    Context.reachesOrdering_eq_false hwindow (by simp [hplain])
  rw [lower, lowerWith, lowerOperand_ordering _ (pure []) hreaches]
  refine lowerWith_windowless (.pure (List.forall_mem_nil _)) fun c hc window hopens ↦ ?_
  obtain ⟨found, hrule, hkind⟩ := (Option.any_eq_true _ _).1 hopens.opensAt
  simp [opensWindow, hplain, Context.kind_of_callsWindow (hwindow c hc) hrule] at hkind

section Unsupported

variable {ordering : Noted (List Sql.Expr)} (hsupport : cx.dialect.supportsWindows = false)

include hsupport

theorem overWindow_unsupported (source : Host.Expr) (fn : Sql.Expr) (order : List Sql.Expr)
    (frame : Option Sql.Frame) : Ensures (fun _ ↦ False) (overWindow cx source fn order frame) := by
  rw [overWindow, hsupport]
  exact .fail _

theorem aggregate_unsupported (hwindowed : cx.windowed = true) (fn : Sql.Expr) :
    Ensures (fun _ ↦ False) (aggregate cx ordering fn) := by
  rw [aggregate, hwindowed, hsupport]
  exact .fail _

theorem ranking_unsupported (call : Call) (fn : Sql.Expr) :
    Ensures (fun _ ↦ False) (ranking cx ordering call fn) :=
  .bind (.trivial _) fun _ _ ↦ .bind (.trivial _) fun _ _ ↦
    overWindow_unsupported hsupport _ _ _ _

theorem buckets_unsupported (call : Call) :
    Ensures (fun _ ↦ False) (buckets cx ordering call) := by
  refine .bind (.trivial _) fun count _ ↦ ?_
  split
  · split
    · exact ranking_unsupported hsupport call _
    · exact .fail _
  · exact .fail _

theorem running_unsupported (call : Call) (fn : Sql.Expr) :
    Ensures (fun _ ↦ False) (running cx ordering call fn) :=
  .bind (.trivial _) fun _ _ ↦ overWindow_unsupported hsupport _ _ _ _

/-- A rule that opens a window makes nothing for a dialect without windows. -/
theorem applyRule_unsupported {kind : RuleKind} (hkind : opensWindow cx.windowed kind = true)
    (call : Call) : Ensures (fun _ ↦ False) (applyRule cx ordering call kind) := by
  have hwindowed (haggregate : kind.isAggregate = true) (hplain : kind.isWindow = false) :
      cx.windowed = true := by
    simpa [opensWindow, haggregate, hplain] using hkind
  have hafter {α β : Type} {x : Noted α} {f : α → Noted β}
      (hf : ∀ a, Ensures (fun _ ↦ False) (f a)) : Ensures (fun _ ↦ False) (x >>= f) :=
    .bind (.trivial x) fun a _ ↦ hf a
  cases kind with
  | aggregate | countDistinct | median =>
    exact hafter fun _ ↦ aggregate_unsupported hsupport (hwindowed rfl rfl) _
  | countAll => exact aggregate_unsupported hsupport (hwindowed rfl rfl) _
  | cumulative => exact hafter fun _ ↦ running_unsupported hsupport call _
  | cumulativeProduct =>
    exact hafter fun _ ↦ .bind (running_unsupported hsupport call _) fun _ hnone ↦ hnone.elim
  | ranking => exact ranking_unsupported hsupport call _
  | ntile => exact buckets_unsupported hsupport call
  | offset =>
    exact hafter fun _ ↦ hafter fun _ ↦ hafter fun _ ↦ hafter fun _ ↦
      overWindow_unsupported hsupport _ _ _ _
  | positional =>
    exact hafter fun _ ↦ hafter fun _ ↦ hafter fun _ ↦ overWindow_unsupported hsupport _ _ _ _
  | _ => simp [opensWindow, RuleKind.isWindow, RuleKind.isAggregate] at hkind

theorem not_opens_of_unsupported {c : Host.Expr} {window : Sql.Expr} :
    ¬ cx.Opens ordering c window := by
  rintro ⟨hopens, -, result, hresult, -⟩
  match c with
  | .literal _ | .vector _ | .symbol _ => cases hopens
  | .call name args named =>
    obtain ⟨⟨rule, placement⟩, hrule, hkind⟩ := (Option.any_eq_true _ _).1 hopens
    rw [lowerWith_of_ruleFor? hrule, Noted.yields_warn] at hresult
    exact (applyRule_unsupported hsupport hkind _).of_yields hresult

/-- For a dialect without windows, every expression becomes one without windows. -/
theorem lower_windowless_of_unsupported (e : Host.Expr) :
    Ensures (fun lowered ↦ lowered.isWindowed = false) (lower cx e) := by
  have hterms : Ensures (∀ key ∈ ·, key.isWindowed = false) (orderTerms cx) := by
    refine .all (List.forall_mem_map.2 fun term _ ↦ ?_)
    exact lowerWith_windowless (.fail _) fun _ _ _ ↦ not_opens_of_unsupported hsupport
  exact lowerWith_windowless hterms fun _ _ _ ↦ not_opens_of_unsupported hsupport

end Unsupported

end Lowering

end SqlVerbs
