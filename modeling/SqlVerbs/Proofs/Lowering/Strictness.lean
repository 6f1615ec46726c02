import SqlVerbs.Proofs.Lowering.Runs

/-!
# Strict and lax lowering

Strict mode refuses functions without a rule, and that is all it does. Of two runs of one expression
the strict one stops at such a function, or both do the same.
-/

namespace SqlVerbs

namespace Noted

variable {α β : Type} {stops : Error → Prop}

/-- The first run stops, or both do the same with the same warnings. -/
abbrev Restricts (stops : Error → Prop) (r : α → β → Prop) (x : Noted α) (y : Noted β) : Prop :=
  Compares Eq stops r x y

theorem Restricts.stopsOr {x y : Noted α} (h : Restricts stops Eq x y) : StopsOr stops Eq x y :=
  h.mono fun _ _ hsame ↦ Prod.ext hsame.1 hsame.2

end Noted

namespace Lowering

open Noted (Restricts)

variable {stops : Error → Prop} {cx : Context}

section Operands

variable {ordering ordering' : Noted (List Sql.Expr)}
  (hordering : Restricts stops Eq ordering ordering')

include hordering

theorem lowerOperand_meets {e : Host.Expr}
    (h : ∀ function ∈ e.calls, cx.dialect.rulesFor function = none →
      stops (.unknownFunction function)) :
    (lowerOperand { cx with strict := true } ordering e).Meets Eq stops
      (lowerOperand { cx with strict := false } ordering' e) := by
  induction e using Host.Expr.induction with
  | literal | vector | symbol => exact ⟨.refl _, fun _ _ ↦ .nil⟩
  | call name args named ihargs ihnamed =>
    rw [Host.Expr.forall_mem_calls_call] at h
    have hargs := fun e he ↦ ihargs e he (h.2.1 e he)
    have hnamed := fun entry hentry ↦ ihnamed entry hentry (h.2.2 entry hentry)
    rw [lowerOperand_call, lowerOperand_call]
    refine ⟨lowerCall_compares cx hargs hnamed hordering true false rfl ?_ ?_, fun _ _ ↦ ?_⟩
    · exact fun hrules ↦ .stopped (h.1 hrules)
    · simp only [lowerOperand_source, implies_true]
    · rw [List.forall₂_map_left_iff, List.forall₂_map_right_iff, List.forall₂_same]
      exact fun e he ↦ (hargs e he).result

end Operands

/-- Strict mode stops at a function without a rule, in the expression or in an ordering term, or
does nothing. -/
theorem lower_restricts {e : Host.Expr}
    (h : ∀ function ∈ e.calls, cx.dialect.rulesFor function = none →
      stops (.unknownFunction function))
    (horder : ∀ term ∈ cx.order, ∀ function ∈ term.calls, cx.dialect.rulesFor function = none →
      stops (.unknownFunction function)) :
    Restricts stops Eq (lower { cx with strict := true } e)
      (lower { cx with strict := false } e) := by
  refine (lowerOperand_meets (.all ?_) h).result
  rw [List.forall₂_map_left_iff, List.forall₂_map_right_iff, List.forall₂_same]
  intro term hterm
  exact (lowerOperand_meets (.fail _) (horder term hterm)).result

end Lowering

end SqlVerbs
