import SqlVerbs.Dialect.Registry
import SqlVerbs.Proofs.Query.Comparison

/-!
# Strict mode

Strict mode only rejects: it stops at a function without a rule, or changes nothing at all, neither
the text nor the warnings nor which other error is found first. This holds for expressions and for
whole queries, where an expression may be lowered twice and ordering terms are lowered late.
-/

namespace SqlVerbs

open Sql (SelectFrom)

/-- The error is about one of these functions, and the function has no rule. -/
def Dialect.Refuses (d : Dialect) (functions : List String) (e : Error) : Prop :=
  ∃ function ∈ functions, d.rulesFor function = none ∧ e = .unknownFunction function

/-- The strict result is the lax one, or the refusal of one of these functions. If all of them have
rules, it is the lax one. -/
structure Dialect.OnlyRejects {α : Type} (d : Dialect) (functions : List String)
    (strict lax : Except Error α) : Prop where
  eq_or_refused : strict = lax ∨ ∃ function ∈ functions, d.rulesFor function = none ∧
    strict = .error (.unknownFunction function)
  eq_of_rules : (∀ function ∈ functions, d.rulesFor function ≠ none) → strict = lax

theorem StopsOr.onlyRejects {α : Type} {d : Dialect} {functions : List String}
    {strict lax : Except Error α} (h : StopsOr (d.Refuses functions) Eq strict lax) :
    d.OnlyRejects functions strict lax := by
  have hcases := h.eq_or_stopped
  constructor
  · refine hcases.imp_right ?_
    rintro ⟨_, ⟨function, hfunction, hrules, rfl⟩, hstrict⟩
    exact ⟨function, hfunction, hrules, hstrict⟩
  · intro hrules
    refine hcases.resolve_right ?_
    rintro ⟨_, ⟨function, hfunction, hnone, -⟩, -⟩
    exact hrules function hfunction hnone

/-! ## Expressions -/

namespace Lowering

/-- The functions of an expression and of the ordering terms around it. -/
def Context.functions (cx : Context) (e : Host.Expr) : List String :=
  e.calls ++ cx.order.flatMap Host.Expr.calls

theorem lower_refused {cx : Context} {e residual : Host.Expr}
    (h : ∀ function ∈ residual.calls, function ∈ e.calls) :
    Noted.Restricts (cx.dialect.Refuses (cx.functions e)) Eq
      (lower { cx with strict := true } residual) (lower { cx with strict := false } residual) := by
  apply lower_restricts
  · intro function hfunction hrules
    exact ⟨function, List.mem_append_left _ (h function hfunction), hrules, rfl⟩
  · intro term hterm function hfunction hrules
    have hcalls : function ∈ cx.order.flatMap Host.Expr.calls :=
      List.mem_flatMap.2 ⟨term, hterm, hfunction⟩
    exact ⟨function, List.mem_append_right _ hcalls, hrules, rfl⟩

theorem expressionText_refused (cx : Context) (scope : Local.Scope) (e : Host.Expr) :
    Noted.Restricts (cx.dialect.Refuses (cx.functions e)) Eq
      (expressionText { cx with strict := true } scope e)
      (expressionText { cx with strict := false } scope e) := by
  refine .bind (.ofExcept _) ?_
  rintro residual _ ⟨rfl, hresidual⟩
  exact (lower_refused (Local.partialEval_calls hresidual)).andThen fun tree ↦ .refl _

end Lowering

/-! ## Queries -/

theorem Sql.SelectFrom.Alike.eq {d : Dialect} {select select' : Sql.Select}
    (h : select.Alike d Eq select') : select = select' := by
  obtain ⟨rfl, hjoins, hfilters⟩ := h
  have hjoin : ∀ join join', Sql.JoinWith.Alike Eq join join' → join = join' := by
    rintro _ _ ⟨kind, on, rfl⟩
    rfl
  have hcondition : ∀ e e', Sql.Expr.Alike d Eq e e' → e = e' := by
    rintro _ _ (_ | ⟨negated, keys, rfl⟩)
    · rfl
    · rfl
  have hjoins' := hjoins.imp hjoin
  have hfilters' := hfilters.imp hcondition
  rw [List.forall₂_eq_eq_eq] at hjoins' hfilters'
  rw [hjoins', hfilters']

/-- The functions that the expressions of a query call. -/
def Query.functions (query : Query) : List String := query.plan.terms.flatMap Host.Expr.calls

/-- The strict compilation against the lax one. -/
def Comparison.ofModes (target : Target) (functions : List String) : Comparison where
  target
  strict := true
  strict' := false
  stops := target.dialect.Refuses functions
  meets := Eq
  alike := Eq
  allows e := ∀ function ∈ e.calls, function ∈ functions
  meets_warned h warnings := by rw [h]
  meets_counted h := by rw [h]
  alike_table _ _ := rfl
  eq_table_iff h name label := by rw [h]
  alike_side h label _ := by rw [h.eq]
  alike_numbered h _ _ hmeets := by rw [h.eq, hmeets]
  allows_residual he hresidual function hfunction :=
    he function (Local.partialEval_calls hresidual function hfunction)
  lower hdialect he horder := by
    apply Lowering.lower_restricts
    · intro function hfunction hrules
      exact ⟨function, he function hfunction, hdialect ▸ hrules, rfl⟩
    · intro term hterm function hfunction hrules
      exact ⟨function, horder term hterm function hfunction, hdialect ▸ hrules, rfl⟩

theorem Query.compile_refused (target : Target) (query : Query) :
    StopsOr (target.dialect.Refuses query.functions) Eq
      (query.compile { target with strict := true })
      (query.compile { target with strict := false }) := by
  have hterms : ∀ e ∈ query.plan.terms, ∀ function ∈ e.calls, function ∈ query.functions :=
    fun e he function hfunction ↦ List.mem_flatMap.2 ⟨e, he, hfunction⟩
  have hselect := @toSelect_relates (.ofModes target query.functions) query hterms {} {} rfl
  refine hselect.bind ?_
  rintro ⟨⟨select, columns⟩, progress⟩ ⟨⟨select', _⟩, _⟩ ⟨⟨halike, rfl⟩, rfl⟩
  obtain rfl : select = select' := halike.eq
  exact .done rfl

/-- Strict mode only rejects. Whatever the expression, its context and the names in scope, and
whatever the query and what it is compiled for, the strict result is the lax one, with the same
warnings or the same error, unless strict mode refuses a function that occurs there and has no
rule. -/
theorem Query.strict_only_rejects :
    (∀ (cx : Lowering.Context) (e : Host.Expr),
      cx.dialect.OnlyRejects (cx.functions e) (Lowering.lower { cx with strict := true } e)
        (Lowering.lower { cx with strict := false } e)) ∧
    (∀ (cx : Lowering.Context) (scope : Local.Scope) (e : Host.Expr),
      cx.dialect.OnlyRejects (cx.functions e)
        (Lowering.expressionText { cx with strict := true } scope e)
        (Lowering.expressionText { cx with strict := false } scope e)) ∧
    ∀ (target : Target) (query : Query),
      target.dialect.OnlyRejects query.functions (query.compile { target with strict := true })
        (query.compile { target with strict := false }) := by
  refine ⟨fun cx e ↦ ?_, fun cx scope e ↦ ?_, fun target query ↦ ?_⟩
  · exact (Lowering.lower_refused fun _ h ↦ h).stopsOr.onlyRejects
  · exact (Lowering.expressionText_refused cx scope e).stopsOr.onlyRejects
  · exact (query.compile_refused target).onlyRejects

example : Lowering.lower { dialect := .ansi, strict := true } (.call "soundex" [.symbol "a"] []) =
    Noted.fail (.unknownFunction "soundex") := by rfl

end SqlVerbs
