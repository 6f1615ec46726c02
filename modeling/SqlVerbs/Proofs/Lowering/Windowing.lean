import SqlVerbs.Proofs.Lowering.Congruence
import SqlVerbs.Proofs.Lowering.Names

/-!
# Expressions without aggregates or windows

Whether aggregates are windows matters to aggregates only. An expression that calls none becomes the
same in both cases, and so do the terms that order its windows. Groups, order and frame matter to
windows only.
-/

namespace SqlVerbs

/-- Does the function always have an `OVER` clause? -/
def Dialect.isWindowFunction (d : Dialect) (function : String) : Bool :=
  ((d.rulesFor function).getD []).any (fun rule ↦ rule.kind.isWindow)

/-- Is the function an aggregate? -/
def Dialect.isAggregateFunction (d : Dialect) (function : String) : Bool :=
  ((d.rulesFor function).getD []).any (fun rule ↦ rule.kind.isAggregate)

namespace Lowering

variable {cx cx' : Context} {ordering ordering' : Noted (List Sql.Expr)}

/-! ## Contexts in which calls become the same -/

/-- In both contexts, the rules of the function make the same of a call. -/
def AgreeOn (cx cx' : Context) (ordering ordering' : Noted (List Sql.Expr)) (function : String) :
    Prop :=
  ∀ rule ∈ (cx.dialect.rulesFor function).getD [], ∀ call : Call,
    applyRule cx' ordering' call rule.kind = applyRule cx ordering call rule.kind

theorem agreeAt_of_agreeOn (hdialect : cx'.dialect = cx.dialect)
    (hstrict : cx'.strict = cx.strict) {c : Host.Expr}
    (h : ∀ function ∈ c.calls, AgreeOn cx cx' ordering ordering' function) :
    AgreeAt cx cx' ordering ordering' c := by
  refine agreeAt_of_ruleFor? hdialect hstrict fun rule placement hfound _ call _ _ ↦ ?_
  obtain ⟨function, hfunction, hrule⟩ := Context.mem_of_ruleFor? hfound
  exact h function hfunction rule hrule call

theorem lowerOperand_congr (hdialect : cx'.dialect = cx.dialect)
    (hstrict : cx'.strict = cx.strict) {e : Host.Expr}
    (h : ∀ function ∈ e.calls, AgreeOn cx cx' ordering ordering' function) :
    lowerOperand cx' ordering' e = lowerOperand cx ordering e :=
  lowerOperand_eq_of_agreeAt fun c hc ↦
    agreeAt_of_agreeOn hdialect hstrict (Host.Expr.calls_of_subterm h c hc)

/-! ## Aggregates that may be windows -/

theorem applyRule_windowed {windowed : Bool} {kind : RuleKind}
    (haggregate : kind.isAggregate = false)
    (hordering : kind.isWindow = true → ordering' = ordering) (call : Call) :
    applyRule { cx with windowed } ordering' call kind = applyRule cx ordering call kind := by
  cases kind with
  | aggregate fn => cases haggregate
  | countAll => cases haggregate
  | countDistinct => cases haggregate
  | median => cases haggregate
  | cumulative | cumulativeProduct | ranking | ntile | offset | positional =>
    rw [hordering rfl]
    rfl
  | _ => rfl

theorem agreeOn_windowed {windowed : Bool} {function : String}
    (haggregate : cx.dialect.isAggregateFunction function = false)
    (hordering : cx.dialect.isWindowFunction function = true → ordering' = ordering) :
    AgreeOn cx { cx with windowed } ordering ordering' function := by
  intro rule hrule call
  have hkind : rule.kind.isAggregate = false := by
    simpa using List.any_eq_false.1 haggregate rule hrule
  exact applyRule_windowed hkind
    (fun hwindow ↦ hordering (List.any_eq_true.2 ⟨rule, hrule, hwindow⟩)) call

/-- An expression without aggregates becomes the same whether aggregates are windows or not, if the
terms that order its windows have no aggregates either. -/
theorem lower_windowed {windowed : Bool} {e : Host.Expr}
    (haggregate : ∀ function ∈ e.calls, cx.dialect.isAggregateFunction function = false)
    (horder : (∃ function ∈ e.calls, cx.dialect.isWindowFunction function = true) →
      ∀ term ∈ cx.order, ∀ function ∈ term.calls,
        cx.dialect.isAggregateFunction function = false) :
    lower { cx with windowed } e = lower cx e := by
  refine congrArg Operand.result (lowerOperand_congr (by rfl) (by rfl) fun function hfunction ↦ ?_)
  refine agreeOn_windowed (haggregate function hfunction) fun hwindow ↦ ?_
  refine congrArg Noted.all (List.map_congr_left fun term hterm ↦ congrArg Operand.result ?_)
  refine lowerOperand_congr (by rfl) (by rfl) fun inner hinner ↦ ?_
  exact agreeOn_windowed (horder ⟨function, hfunction, hwindow⟩ term hterm inner hinner) fun _ ↦ rfl

/-! ## Outside of windows -/

section Plain

variable (hdialect : cx'.dialect = cx.dialect) (hplain : cx.windowed = false)
  (hplain' : cx'.windowed = false)

include hdialect hplain hplain'

theorem applyRule_plain {kind : RuleKind} (hwindow : kind.isWindow = false) (call : Call) :
    applyRule cx' ordering' call kind = applyRule cx ordering call kind := by
  have haggregate (fn : Sql.Expr) : aggregate cx' ordering' fn = aggregate cx ordering fn := by
    simp [aggregate, hplain, hplain']
  cases kind with
  | aggregate | countAll | countDistinct | median => simp only [applyRule, haggregate]
  | cumulative | cumulativeProduct | ranking | ntile | offset | positional => cases hwindow
  | cast | modulo | unsupported => simp only [applyRule, modulo, hdialect]
  | _ => rfl

/-- Groups, order and frame matter to windows only. -/
theorem lower_unwindowed (hstrict : cx'.strict = cx.strict) {e : Host.Expr}
    (hwindow : ∀ function ∈ e.calls, cx.dialect.isWindowFunction function = false) :
    lower cx' e = lower cx e := by
  refine congrArg Operand.result (lowerOperand_congr hdialect hstrict fun function hfunction ↦ ?_)
  intro rule hrule call
  have hkind : rule.kind.isWindow = false := by
    simpa using List.any_eq_false.1 (hwindow function hfunction) rule hrule
  exact applyRule_plain hdialect hplain hplain' hkind call

end Plain

/-- The groups matter to windows only. -/
theorem lower_groups {groups : List String} {e : Host.Expr} (hplain : cx.windowed = false)
    (hwindow : ∀ function ∈ e.calls, cx.dialect.isWindowFunction function = false) :
    lower { cx with groups } e = lower cx e :=
  @lower_unwindowed cx { cx with groups } rfl hplain hplain rfl e hwindow

/-- Outside of windows, an expression that calls no window function becomes SQL over its own symbols
and without windows. -/
theorem lower_plain {names : List String} {e : Host.Expr} (hplain : cx.windowed = false)
    (hwindow : ∀ function ∈ e.calls, cx.dialect.isWindowFunction function = false)
    (h : ∀ name ∈ e.references, name ∈ names) :
    Noted.Ensures (Sql.Expr.Over names false) (lower cx e) := by
  have hopens : e.calls.any cx.opens = false := by
    rw [List.any_eq_false]
    intro function hfunction
    simpa [Context.opens, opensWindow, hplain, Dialect.isWindowFunction] using
      hwindow function hfunction
  have hconsults : e.calls.any cx.consults = false := by
    rw [List.any_eq_false] at hopens ⊢
    intro function hfunction hconsults
    exact hopens function hfunction (Context.opens_of_consults hconsults)
  have hover := @lower_over names cx e h (by simp [hopens]) (by simp [hconsults])
  rwa [hopens] at hover

end Lowering

end SqlVerbs
