import SqlVerbs.Proofs.Lowering.Nodes

/-!
# Contexts in which expressions become the same

Two contexts make the same of an expression if they make the same of every call in it, whatever the
arguments of the call become. For that, the rule that is found for the call has to make the same of
it in both.
-/

namespace SqlVerbs

namespace Lowering

/-- The call becomes the same in both contexts, whatever its arguments become. -/
def AgreeAt (cx cx' : Context) (ordering ordering' : Noted (List Sql.Expr)) : Host.Expr → Prop
  | .call name args named => ∀ (source : Host.Expr) (become : Host.Expr → Operand),
    lowerCall cx' ordering' source name (args.map become) (Bindings.mapValues become named) =
      lowerCall cx ordering source name (args.map become) (Bindings.mapValues become named)
  | _ => True

variable {cx cx' : Context} {ordering ordering' : Noted (List Sql.Expr)}

theorem agreeAt_of_ruleFor? {c : Host.Expr} (hdialect : cx'.dialect = cx.dialect)
    (hstrict : cx'.strict = cx.strict)
    (h : ∀ rule placement, cx.ruleFor? c = some (rule, placement) →
      ∀ (become : Host.Expr → Operand) (call : Call),
        call.slots = (placement.map become).slots →
        call.keywords = (placement.map become).keywords →
        applyRule cx' ordering' call rule.kind = applyRule cx ordering call rule.kind) :
    AgreeAt cx cx' ordering ordering' c := by
  match c with
  | .literal _ | .vector _ | .symbol _ => trivial
  | .call name args named =>
    intro source become
    rw [lowerCall, lowerCall, hdialect]
    cases hrules : cx.dialect.rulesFor name with
    | none => simp only [passThrough, hstrict]
    | some rules =>
      dsimp only
      rw [resolveRule_map]
      cases hresolved : resolveRule args named rules with
      | none => rfl
      | some found =>
        have hrule : cx.ruleFor? (.call name args named) = some (found.1, found.2) := by
          rw [Context.ruleFor?, hrules, Option.bind_some, hresolved]
        exact congrArg (Noted.warn _ >>= fun _ ↦ ·) (h _ _ hrule become _ rfl rfl)

/-- An expression becomes the same in both contexts if every call in it does. -/
theorem lowerOperand_eq_of_agreeAt {e : Host.Expr}
    (h : ∀ c ∈ e.subterms, AgreeAt cx cx' ordering ordering' c) :
    lowerOperand cx' ordering' e = lowerOperand cx ordering e := by
  induction e using Host.Expr.induction with
  | literal | vector | symbol => rfl
  | call name args named ihargs ihnamed =>
    obtain ⟨hcall, hargs, hnamed⟩ := Host.Expr.forall_mem_subterms_call.1 h
    have hoperands : args.map (lowerOperand cx' ordering') = args.map (lowerOperand cx ordering) :=
      List.map_congr_left fun e he ↦ ihargs e he (hargs e he)
    have hnamedOperands : Bindings.mapValues (lowerOperand cx' ordering') named =
        Bindings.mapValues (lowerOperand cx ordering) named :=
      List.map_congr_left fun entry hentry ↦ by rw [ihnamed entry hentry (hnamed entry hentry)]
    have hresults : (args.map fun e ↦ (lowerOperand cx' ordering' e).result) =
        args.map fun e ↦ (lowerOperand cx ordering e).result :=
      List.map_congr_left fun e he ↦ by rw [ihargs e he (hargs e he)]
    rw [lowerOperand_call, lowerOperand_call, hoperands, hnamedOperands, hresults, hcall]

end Lowering

end SqlVerbs
