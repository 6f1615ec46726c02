import SqlVerbs.Proofs.Lowering.Nodes

/-!
# The names in lowered expressions

A host expression becomes SQL that mentions the symbols of the expression and, where it has
windows, the grouping columns and the symbols of the ordering terms. It mentions nothing else.
Every window in it is one of a function call, and there is none unless the expression calls a
function that opens one.
-/

namespace SqlVerbs

namespace Lowering

open Noted (Ensures)
open Sql.Expr (Over)

variable {names : List String} {windows : Bool}

/-- Does a call to this function open a window? -/
def Context.opens (cx : Context) (function : String) : Bool :=
  ((cx.dialect.rulesFor function).getD []).any (fun rule ↦ opensWindow cx.windowed rule.kind)

/-- May a call to this function consult the order of windows? -/
def Context.consults (cx : Context) (function : String) : Bool :=
  ((cx.dialect.rulesFor function).getD []).any
    (fun rule ↦ usesOrder cx.windowed cx.frame.isSome rule.kind)

theorem Context.opens_of_consults {cx : Context} {function : String}
    (h : cx.consults function = true) : cx.opens function = true := by
  obtain ⟨rule, hrule, huses⟩ := List.any_eq_true.1 h
  refine List.any_eq_true.2 ⟨rule, hrule, ?_⟩
  simp only [usesOrder, opensWindow, Bool.or_eq_true, Bool.and_eq_true] at huses ⊢
  exact huses.imp_right (fun haggregate ↦ ⟨haggregate.1.1, haggregate.2⟩)

theorem Context.opens_of_opensAt {cx : Context} {c : Host.Expr} (h : cx.opensAt c = true) :
    ∃ function ∈ c.calls, cx.opens function = true := by
  obtain ⟨found, hrule, hkind⟩ := (Option.any_eq_true _ _).1 h
  obtain ⟨function, hfunction, hmem⟩ := Context.mem_of_ruleFor? hrule
  exact ⟨function, hfunction, List.any_eq_true.2 ⟨_, hmem, hkind⟩⟩

theorem Context.consults_of_consultsAt {cx : Context} {c : Host.Expr}
    (h : cx.consultsAt c = true) : ∃ function ∈ c.calls, cx.consults function = true := by
  obtain ⟨found, hrule, hkind⟩ := (Option.any_eq_true _ _).1 h
  obtain ⟨function, hfunction, hmem⟩ := Context.mem_of_ruleFor? hrule
  exact ⟨function, hfunction, List.any_eq_true.2 ⟨_, hmem, hkind⟩⟩

/-- The windows of a call are over some names, if these hold the groups and the symbols of the
ordering. -/
theorem allows_over {cx : Context} {ordering : Noted (List Sql.Expr)} {e c : Host.Expr}
    (hc : c ∈ e.subterms)
    (hopens : ∀ function ∈ e.calls, cx.opens function = true → windows = true)
    (hgroups : windows = true → ∀ group ∈ cx.groups, group ∈ names)
    (horder : cx.consultsAt c = true → Ensures (∀ e ∈ ·, Over names windows e) ordering) :
    cx.Allows (Sql.Expr.overTest names windows) ordering c := by
  have hwindows (hopensAt : cx.opensAt c = true) : windows = true := by
    obtain ⟨function, hfunction, hopensFunction⟩ := Context.opens_of_opensAt hopensAt
    exact Host.Expr.calls_of_subterm hopens c hc function hfunction hopensFunction
  refine ⟨fun hopensAt group hgroup ↦ ⟨rfl, hgroups (hwindows hopensAt) group hgroup⟩, horder, ?_⟩
  intro window hwindow
  obtain ⟨fn, keys, frame, rfl, hcall, -⟩ := hwindow.isWindowIn
  exact ⟨hwindows hwindow.opensAt, hcall⟩

/-- An expression becomes SQL over its own symbols, over the groups if it opens windows, and over
the symbols of the ordering terms if it consults them. It has windows only if it opens some. -/
theorem lower_over {cx : Context} {e : Host.Expr} (h : ∀ name ∈ e.references, name ∈ names)
    (hgroups : e.calls.any cx.opens = true → ∀ group ∈ cx.groups, group ∈ names)
    (horder : e.calls.any cx.consults = true →
      ∀ term ∈ cx.order, ∀ name ∈ term.references, name ∈ names) :
    Ensures (Over names (e.calls.any cx.opens)) (lower cx e) := by
  have hconsulted : e.calls.any cx.consults = true → e.calls.any cx.opens = true := by
    intro hany
    obtain ⟨function, hfunction, hconsults⟩ := List.any_eq_true.1 hany
    exact List.any_eq_true.2 ⟨function, hfunction, Context.opens_of_consults hconsults⟩
  have hterm {term : Host.Expr} (hterm : term ∈ cx.order)
      (hany : e.calls.any cx.consults = true) :
      Ensures (Over names (e.calls.any cx.opens)) (lowerWith cx (.fail .circularOrdering) term) := by
    -- A term that consults the order fails, so nothing is asked of the order of the terms.
    have hallows : ∀ c ∈ term.subterms, cx.Allows (Sql.Expr.overTest names (e.calls.any cx.opens))
        (.fail .circularOrdering) c := fun c hc ↦
      allows_over hc (fun _ _ _ ↦ hconsulted hany) hgroups (fun _ ↦ .fail _)
    exact (lowerOperand_passes hallows
      (fun name hname ↦ ⟨rfl, horder hany term hterm name hname⟩)).1
  have hallows : ∀ c ∈ e.subterms, cx.Allows (Sql.Expr.overTest names (e.calls.any cx.opens))
      (orderTerms cx) c := by
    intro c hc
    refine allows_over hc (fun function hfunction hopens ↦ ?_) hgroups (fun hconsultsAt ↦ ?_)
    · exact List.any_eq_true.2 ⟨function, hfunction, hopens⟩
    · obtain ⟨function, hfunction, hconsults⟩ := Context.consults_of_consultsAt hconsultsAt
      have hcalled : function ∈ e.calls :=
        Host.Expr.calls_of_subterm (fun _ ↦ id) c hc function hfunction
      exact .all (List.forall_mem_map.2 fun term hmem ↦
        hterm hmem (List.any_eq_true.2 ⟨function, hcalled, hconsults⟩))
  exact (lowerOperand_passes hallows (fun name hname ↦ ⟨rfl, h name hname⟩)).1

/-- Without ordering terms, an expression becomes SQL over its own symbols and the groups. -/
theorem lower_within {cx : Context} (hgroups : ∀ group ∈ cx.groups, group ∈ names)
    (horder : cx.order = []) {e : Host.Expr} (h : ∀ name ∈ e.references, name ∈ names) :
    Ensures (Sql.Expr.Within names) (lower cx e) :=
  .mono (lower_over h (fun _ ↦ hgroups) (by simp [horder])) (fun _ hover ↦ hover.within)

end Lowering

end SqlVerbs
