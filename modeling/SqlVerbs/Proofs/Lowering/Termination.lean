import Mathlib.Data.List.Flatten
import Mathlib.Order.WellFounded
import SqlVerbs.Dialect.Registry
import SqlVerbs.Proofs.Lowering.Congruence
import SqlVerbs.Proofs.Lowering.Errors

/-!
# Lowering comes to an end

A call may consult the ordering of the context, whose terms are lowered in the same context. If none
of the terms consults the ordering in turn, this does not go round in circles: a term becomes the
same whatever the ordering is, and everything else is lowered after the ordering.
-/

namespace SqlVerbs

/-! ## Expressions inside of expressions -/

namespace Host.Expr

/-- The expressions that are inside of an expression. -/
def inner : Expr → List Expr
  | .call _ args named => subtermsAll args ++ subtermsNamed named
  | _ => []

theorem subterms_eq (e : Expr) : e.subterms = e :: e.inner := by
  cases e <;> rfl

/-- What is inside of an expression is inside of every expression around it. -/
theorem subterms_sublist_inner {c e : Expr} (h : c ∈ e.inner) : c.subterms.Sublist e.inner := by
  induction e using Host.Expr.induction with
  | literal | vector | symbol => cases h
  | call name args named ihargs ihnamed =>
    have hwhole {e : Expr} (ih : c ∈ e.inner → c.subterms.Sublist e.inner)
        (hc : c ∈ e.subterms) : c.subterms.Sublist e.subterms := by
      rw [subterms_eq e, List.mem_cons] at hc
      rw [subterms_eq e]
      rcases hc with rfl | hc
      · rw [subterms_eq]
      · exact .cons _ (ih hc)
    rw [inner, subtermsAll_eq_flatMap, subtermsNamed_eq_flatMap] at h ⊢
    rw [List.mem_append, List.mem_flatMap, List.mem_flatMap] at h
    rcases h with ⟨e, he, hc⟩ | ⟨entry, hentry, hc⟩
    · have hargs := (List.singleton_sublist.2 he).flatMap subterms
      rw [List.flatMap_singleton] at hargs
      exact ((hwhole (ihargs e he) hc).trans hargs).trans (List.sublist_append_left _ _)
    · have hnamed := (List.singleton_sublist.2 hentry).flatMap fun entry ↦ subterms entry.2
      rw [List.flatMap_singleton] at hnamed
      exact ((hwhole (ihnamed entry hentry) hc).trans hnamed).trans (List.sublist_append_right _ _)

end Host.Expr

namespace Lowering

/-! ## What lowering starts -/

/-- Does the call itself consult the ordering of the context? Its rule does, and it has no term of
its own for that. -/
def Context.consultsOrdering (cx : Context) (c : Host.Expr) : Bool :=
  cx.consultsAt c && (cx.ownOrder? c).isNone

/-- Does a call in the expression consult the ordering of the context? -/
def Context.reachesOrdering (cx : Context) (e : Host.Expr) : Bool :=
  e.subterms.any cx.consultsOrdering

/-- What there is to do on the way to SQL. -/
inductive Task where
  /-- An expression is lowered. -/
  | expression (e : Host.Expr)
  /-- The ordering terms of the context are lowered. -/
  | ordering

/-- The second task is started for the first. -/
inductive Context.Starts (cx : Context) : Task → Task → Prop
  | inside {e c : Host.Expr} (inner : c ∈ e.inner) : Starts cx (.expression e) (.expression c)
  | ordering {c : Host.Expr} (consults : cx.consultsOrdering c = true) :
    Starts cx (.expression c) .ordering
  | term {term : Host.Expr} (listed : term ∈ cx.order) : Starts cx .ordering (.expression term)

/-- Expressions that do not reach the ordering come first, then the ordering, then all others. Among
expressions the number of those inside counts. -/
def Context.rank (cx : Context) : Task → Nat × Nat
  | .expression e => (if cx.reachesOrdering e then 2 else 0, e.inner.length)
  | .ordering => (1, 0)

section Ranks

variable {cx : Context}

theorem Context.reachesOrdering_inner {e c : Host.Expr} (h : cx.reachesOrdering e = false)
    (hc : c ∈ e.inner) : cx.reachesOrdering c = false := by
  rw [reachesOrdering, List.any_eq_false] at h ⊢
  intro part hpart
  refine h part ?_
  rw [Host.Expr.subterms_eq]
  exact List.mem_cons_of_mem _ ((Host.Expr.subterms_sublist_inner hc).subset hpart)

variable (horder : ∀ term ∈ cx.order, cx.reachesOrdering term = false)

include horder

theorem Context.Starts.rank_lt {task later : Task} (h : cx.Starts task later) :
    Prod.Lex (· < ·) (· < ·) (cx.rank later) (cx.rank task) := by
  cases h with
  | @inside e c hinner =>
    have hlength : c.inner.length < e.inner.length := by
      have hle := (Host.Expr.subterms_sublist_inner hinner).length_le
      rwa [Host.Expr.subterms_eq, List.length_cons] at hle
    cases hreaches : cx.reachesOrdering e with
    | false =>
      rw [rank, rank, hreaches, reachesOrdering_inner hreaches hinner]
      exact .right _ hlength
    | true =>
      -- What is inside may not reach the ordering any more, and then it comes before the ordering.
      rw [rank, rank, hreaches]
      cases cx.reachesOrdering c with
      | false => exact .left _ _ (by decide)
      | true => exact .right _ hlength
  | @ordering c hconsults =>
    have hreaches : cx.reachesOrdering c = true :=
      List.any_eq_true.2 ⟨c, c.subterms_eq ▸ List.mem_cons_self, hconsults⟩
    rw [rank, rank, hreaches]
    exact .left _ _ (by decide)
  | term hterm =>
    rw [rank, rank, horder _ hterm]
    exact .left _ _ (by decide)

theorem Context.starts_wellFounded : WellFounded fun later task ↦ cx.Starts task later :=
  Subrelation.wf (fun h ↦ h.rank_lt horder)
    (InvImage.wf cx.rank (Prod.lex ⟨_, Nat.lt_wfRel.wf⟩ ⟨_, Nat.lt_wfRel.wf⟩).wf)

end Ranks

/-! ## Calls that do not consult the ordering -/

section Independence

variable {cx : Context} (ordering ordering' : Noted (List Sql.Expr))

/-- An aggregate is ordered only if it is a window with a frame. -/
theorem aggregate_ordering (h : (cx.windowed && cx.frame.isSome) = false) (fn : Sql.Expr) :
    aggregate cx ordering fn = aggregate cx ordering' fn := by
  rw [aggregate, aggregate]
  rcases Bool.and_eq_false_iff.1 h with hwindowed | hframe
  · rw [hwindowed]
    rfl
  · have hnone : cx.frame = none := by simpa using hframe
    rw [hnone]

theorem ranking_ordering {call : Call} (h : (call.operand? 0).isSome) (fn : Sql.Expr) :
    ranking cx ordering call fn = ranking cx ordering' call fn := by
  obtain ⟨operand, hoperand⟩ := Option.isSome_iff_exists.1 h
  simp [ranking, Call.arg?, hoperand, Noted.optional, orderOr]

theorem keywordOrder_ordering {call : Call} (h : (call.keywords.get? "order_by").isSome) :
    call.keywordOrder ordering = call.keywordOrder ordering' := by
  obtain ⟨operand, hoperand⟩ := Option.isSome_iff_exists.1 h
  rw [Call.keywordOrder, Call.keywordOrder, hoperand]

/-- A rule that has no use for the ordering, or an order of its own, makes the same of a call
whatever the ordering is. -/
theorem applyRule_ordering {call : Call} {kind : RuleKind}
    (h : usesOrder cx.windowed cx.frame.isSome kind = true →
      (Lowering.ownOrder? call.placement kind).isSome) :
    applyRule cx ordering call kind = applyRule cx ordering' call kind := by
  have haggregate (hplain : usesOrder cx.windowed cx.frame.isSome kind =
      (cx.windowed && cx.frame.isSome)) (hown : Lowering.ownOrder? call.placement kind = none) :
      (cx.windowed && cx.frame.isSome) = false := by
    rw [hplain, hown] at h
    exact Bool.eq_false_iff.2 fun hwindowed ↦ absurd (h hwindowed) Bool.false_ne_true
  cases kind with
  | aggregate | countAll | countDistinct | median =>
    have hplain := haggregate (Bool.and_true _) rfl
    simp only [applyRule, aggregate_ordering ordering ordering' hplain]
  | cumulative | cumulativeProduct => exact absurd (h rfl) Bool.false_ne_true
  | ranking fn => exact ranking_ordering ordering ordering' (h rfl) _
  | ntile => simp only [applyRule, buckets, ranking_ordering ordering ordering' (h rfl)]
  | offset fn => simp only [applyRule, offset, keywordOrder_ordering ordering ordering' (h rfl)]
  | positional fn =>
    simp only [applyRule, positional, keywordOrder_ordering ordering ordering' (h rfl)]
  | _ => rfl

theorem agreeAt_ordering {c : Host.Expr} (h : cx.consultsOrdering c = false) :
    AgreeAt cx cx ordering' ordering c := by
  refine agreeAt_of_ruleFor? rfl rfl fun rule placement hfound become call hslots hkeywords ↦ ?_
  refine applyRule_ordering ordering ordering' fun huses ↦ ?_
  have hown : Lowering.ownOrder? call.placement rule.kind =
      (Lowering.ownOrder? placement rule.kind).map become := by
    rw [← ownOrder?_map, Call.placement, hslots, hkeywords]
    cases rule.kind <;> rfl
  simp only [Context.consultsOrdering, Context.consultsAt, Context.ownOrder?, hfound,
    Option.any_some, Option.bind_some, Bool.and_eq_false_iff] at h
  rw [hown, Option.isSome_map]
  simpa [huses] using h

theorem lowerOperand_ordering {e : Host.Expr} (h : cx.reachesOrdering e = false) :
    lowerOperand cx ordering e = lowerOperand cx ordering' e := by
  rw [Context.reachesOrdering, List.any_eq_false] at h
  exact lowerOperand_eq_of_agreeAt fun c hc ↦
    agreeAt_ordering ordering ordering' (Bool.eq_false_iff.2 (h c hc))

end Independence

/-! ## The ordering of a context -/

section Orderings

variable {cx : Context} (horder : ∀ term ∈ cx.order, cx.reachesOrdering term = false)

include horder

/-- The ordering terms become the same whatever the ordering is while they are lowered. -/
theorem all_lowerWith_order (ordering : Noted (List Sql.Expr)) :
    Noted.all (cx.order.map (lowerWith cx ordering)) = orderTerms cx := by
  have hterms : cx.order.map (lowerWith cx ordering) =
      cx.order.map (lowerWith cx (Noted.fail .circularOrdering)) :=
    List.map_congr_left fun term hterm ↦
      congrArg Operand.result (lowerOperand_ordering _ _ (horder term hterm))
  rw [hterms, orderTerms]

theorem orderTerms_isSound : (orderTerms cx).IsSound := by
  rw [← all_lowerWith_order horder (pure [])]
  exact .all (List.forall_mem_map.2 fun term _ ↦ (lowerOperand_isSound (.pure []) term).result)

end Orderings

/-- Lowering comes to an end if none of the ordering terms reaches the ordering. No task starts
others without end. What does not reach the ordering becomes the same whatever the ordering is, so
that the terms have exactly one result where they are lowered in the order of themselves. Then every
expression becomes a tree or fails with an error of lowering, and never because the ordering is
circular. -/
theorem lower_ends (cx : Context) (horder : ∀ term ∈ cx.order, cx.reachesOrdering term = false) :
    (WellFounded fun later task ↦ cx.Starts task later) ∧
      (∀ e, cx.reachesOrdering e = false → ∀ ordering ordering',
        lowerWith cx ordering e = lowerWith cx ordering' e) ∧
      (∀ ordering, ordering = Noted.all (cx.order.map (lowerWith cx ordering)) ↔
        ordering = orderTerms cx) ∧
      ∀ e, (∃ tree warnings, lower cx e = .ok (tree, warnings)) ∨
        ∃ error, error.IsLowering ∧ lower cx e = .error error := by
  refine ⟨cx.starts_wellFounded horder, ?_, ?_, ?_⟩
  · intro e he ordering ordering'
    rw [lowerWith, lowerWith, lowerOperand_ordering ordering ordering' he]
  · intro ordering
    rw [all_lowerWith_order horder]
  · intro e
    have hsound : (lower cx e).IsSound :=
      (lowerOperand_isSound (orderTerms_isSound horder) e).result
    cases hlowered : lower cx e with
    | ok result => exact .inl ⟨result.1, result.2, rfl⟩
    | error error => exact .inr ⟨error, hsound error hlowered, rfl⟩

/-- The highest water level so far, in the order of how much the level has risen in an hour. -/
theorem lower_ends_waterLevels :
    let level : Host.Expr := .symbol "level"
    let before : Host.Expr := .call "lag" [level] [("order_by", .symbol "hour")]
    let rise : Host.Expr := .call "-" [level, before] []
    let riseTree : Sql.Expr := .binary (.column "level") .sub
      (.window (.call "LAG" [.column "level"]) [] [.column "hour"] none)
    let cx : Context := { dialect := .ansi, order := [rise] }
    (∀ term ∈ cx.order, cx.reachesOrdering term = false) ∧
      (WellFounded fun later task ↦ cx.Starts task later) ∧
      (∀ ordering, ordering = Noted.all [lowerWith cx ordering rise] ↔
        ordering = .ok ([riseTree], [])) ∧
      lower cx (.call "cummax" [level] []) = .ok (.window (.call "MAX" [.column "level"]) []
        [riseTree] (some .cumulative), []) := by
  intro level before rise riseTree cx
  have horder : ∀ term ∈ cx.order, cx.reachesOrdering term = false := by
    rw [List.forall_mem_singleton]
    rfl
  obtain ⟨hwellFounded, -, hunique, -⟩ := lower_ends cx horder
  exact ⟨horder, hwellFounded, hunique, rfl⟩

/-- A window in the order of itself is refused. -/
example : lower { dialect := .ansi, order := [.call "cumsum" [.symbol "level"] []] }
    (.call "cummax" [.symbol "level"] []) = .error .circularOrdering := rfl

end Lowering

end SqlVerbs
