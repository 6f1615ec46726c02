import SqlVerbs.Dialect.Registry
import SqlVerbs.Proofs.Lowering.Runs

/-!
# Parentheses of the host language

What an expression becomes does not depend on parentheses in it, as long as they hide nothing from
the rules: a few rules look at the arguments as they are written, and take one in parentheses for a
call. Where these see the same without the parentheses, so does SQL.
-/

namespace SqlVerbs

namespace Host.Expr

/-- A call, or only its argument if the call stands for parentheses. -/
def unwrapped (name : String) (args : List Expr) (named : List (String × Expr)) : Expr :=
  match args, named with
  | [e], [] => if name = "(" then e else .call name [e] []
  | args, named => .call name args named

mutual

/-- The expression without parentheses, at any depth. -/
def bare : Expr → Expr
  | .call name args named => unwrapped name (bareAll args) (bareNamed named)
  | e => e

/-- Several expressions without parentheses. -/
def bareAll : List Expr → List Expr
  | [] => []
  | e :: rest => bare e :: bareAll rest

/-- Named arguments without parentheses. -/
def bareNamed : List (String × Expr) → List (String × Expr)
  | [] => []
  | (key, e) :: rest => (key, bare e) :: bareNamed rest

end

theorem bareAll_eq_map (args : List Expr) : bareAll args = args.map bare := by
  induction args with
  | nil => rfl
  | cons e rest ih => rw [bareAll, ih, List.map_cons]

theorem bareNamed_eq_mapValues (named : List (String × Expr)) :
    bareNamed named = Bindings.mapValues bare named := by
  induction named with
  | nil => rfl
  | cons entry rest ih => rw [bareNamed, ih, Bindings.mapValues, Bindings.mapValues, List.map_cons]

theorem bare_call (name : String) (args : List Expr) (named : List (String × Expr)) :
    (∃ e, name = "(" ∧ args = [e] ∧ named = [] ∧ bare (.call name args named) = e.bare) ∨
      bare (.call name args named) = .call name (args.map bare) (Bindings.mapValues bare named) := by
  rw [bare, bareAll_eq_map, bareNamed_eq_mapValues]
  match args, named with
  | [e], [] =>
    by_cases hname : name = "("
    · exact .inl ⟨e, hname, rfl, rfl, if_pos hname⟩
    · exact .inr (if_neg hname)
  | [], _ | _ :: _ :: _, _ | [_], _ :: _ => exact .inr rfl

end Host.Expr

namespace Warning

/-- The warning without the expression that it quotes. -/
def unquoted : Warning → Warning
  | .missingWindowOrder _ => .missingWindowOrder ""
  | warning => warning

/-- The same warnings, perhaps about expressions that are written in another way. -/
def Alike (warnings warnings' : List Warning) : Prop :=
  warnings.map unquoted = warnings'.map unquoted

instance : WarnsAlike Alike where
  refl _ := rfl
  append h h' := by rw [Alike, List.map_append, List.map_append, h, h']

end Warning

/-- The result with warnings that quote no expression. -/
def Noted.unquoted {α : Type} : Noted α → Noted α
  | .ok (a, warnings) => .ok (a, warnings.map Warning.unquoted)
  | .error e => .error e

/-- Runs none of which stops early have the same result. -/
theorem Noted.Compares.unquoted_eq {α : Type} {x y : Noted α}
    (h : Noted.Compares Warning.Alike (fun _ ↦ False) Eq x y) : x.unquoted = y.unquoted := by
  cases h with
  | stopped h => exact h.elim
  | failed e => rfl
  | @done first second h =>
    obtain ⟨a, warnings⟩ := first
    obtain ⟨_, warnings'⟩ := second
    obtain ⟨rfl, h⟩ := h
    exact congrArg (fun quoted ↦ Except.ok (a, quoted)) h

namespace Lowering

open Noted (Compares)

/-- Do parentheses hide nothing from the rule that is applied to a call? -/
def Context.seesThrough (cx : Context) : Host.Expr → Bool
  | .call name args named =>
    match (cx.dialect.rulesFor name).bind (resolveRule args named) with
    | some (rule, placement) =>
      viewOf cx placement rule.kind = viewOf cx (placement.map Host.Expr.bare) rule.kind
    | none => true
  | _ => true

/-- The rule for parentheses. -/
def transparent : List Rule := [⟨.identity, .exact 1, [], []⟩]

theorem rulesFor_parens {d : Dialect} (hd : d ∈ Dialect.builtin) :
    d.rulesFor "(" = some transparent := by
  revert d
  decide

section Parentheses

variable {cx : Context} (hparens : cx.dialect.rulesFor "(" = some transparent)

include hparens

theorem lowerCall_parens (ordering : Noted (List Sql.Expr)) (source : Host.Expr)
    (operand : Operand) : lowerCall cx ordering source "(" [operand] [] = operand.result := by
  have hresolved : resolveRule [operand] [] transparent =
      some (⟨.identity, .exact 1, [], []⟩, ⟨[some operand], [], []⟩) := rfl
  rw [lowerCall, hparens]
  dsimp only
  rw [hresolved]
  change (pure () >>= fun _ ↦ pure operand >>= Operand.result) = _
  rw [pure_bind, pure_bind]

theorem lowerOperand_bare (ordering : Noted (List Sql.Expr)) {e : Host.Expr}
    (h : e.everywhere cx.seesThrough = true) :
    (lowerOperand cx ordering e).Meets Warning.Alike (fun _ ↦ False)
      (lowerOperand cx ordering e.bare) := by
  induction e using Host.Expr.induction with
  | literal | vector | symbol => exact ⟨.refl _, fun _ _ ↦ .nil⟩
  | call name args named ihargs ihnamed =>
    obtain ⟨hcall, hargs, hnamed⟩ := Host.Expr.everywhere_call.1 h
    have hargs := fun e he ↦ ihargs e he (hargs e he)
    have hnamed := fun entry hentry ↦ ihnamed entry hentry (hnamed entry hentry)
    obtain ⟨e, rfl, rfl, rfl, hbare⟩ | hbare := Host.Expr.bare_call name args named
    · rw [hbare, lowerOperand_call]
      refine ⟨?_, fun hformula ↦ ?_⟩
      · change Compares _ _ _ (lowerCall cx ordering _ "(" [lowerOperand cx ordering e] []) _
        rw [lowerCall_parens hparens]
        exact (hargs e List.mem_cons_self).result
      · simp [formula?] at hformula
    · rw [hbare, lowerOperand_call, lowerOperand_call, List.map_map, List.map_map,
        Bindings.mapValues_mapValues]
      refine ⟨?_, fun _ _ ↦ ?_⟩
      · refine lowerCall_compares cx hargs hnamed (.refl ordering) cx.strict cx.strict ?_
          (fun _ ↦ passThrough_compares cx hargs hnamed name) ?_
        · rfl
        · intro rules rule placement hrules hresolved
          rw [Context.seesThrough, hrules, Option.bind_some, hresolved] at hcall
          simp only [lowerOperand_source, Placement.map_id]
          exact of_decide_eq_true hcall
      · rw [List.forall₂_map_left_iff, List.forall₂_map_right_iff, List.forall₂_same]
        exact fun e he ↦ (hargs e he).result

/-- Parentheses change neither the tree nor the error nor the number and kind of the warnings,
unless a rule takes one for a call where it looks at an argument as it is written. -/
theorem lower_bare {e : Host.Expr} (h : e.everywhere cx.seesThrough = true) :
    (lower cx e).unquoted = (lower cx e.bare).unquoted :=
  (lowerOperand_bare hparens (orderTerms cx) h).result.unquoted_eq

end Parentheses

/-- Parentheses around conditions, values and operands, and around a bound that is no literal. -/
theorem lower_bare_shares :
    let cx : Context := { dialect := .ansi, groups := ["shop"], windowed := true }
    let parens (e : Host.Expr) : Host.Expr := .call "(" [e] []
    let total : Host.Expr := .call "cumsum" [parens (.symbol "x")] []
    let e : Host.Expr := .call "case_when"
      [.call "~" [parens (.call "==" [.call "%%" [parens (.symbol "n"), .literal (.integer (some 2))]
          [], .literal (.integer (some 0))] []), parens (parens total)] []]
      [(".default", parens (.call "substr" [.symbol "s", .literal (.integer (some 1)),
        parens (.symbol "n")] []))]
    e.everywhere cx.seesThrough = true ∧ (lower cx e).unquoted = (lower cx e.bare).unquoted ∧
      (lower cx e).unquoted = .ok (.caseWhen [(.binary (.binary (.column "n") .mod
          (.literal (.integer (some 2)))) .eq (.literal (.integer (some 0))),
        .window (.call "SUM" [.column "x"]) [.column "shop"] [] (some .cumulative))]
        (some (.call "SUBSTR" [.column "s", .literal (.integer (some 1)),
          .binary (.binary (.column "n") .sub (.literal (.integer (some 1)))) .add
            (.literal (.integer (some 1)))])), [.missingWindowOrder ""]) := by
  intro cx parens total e
  have hsees : e.everywhere cx.seesThrough = true := by decide +kernel
  exact ⟨hsees, lower_bare (rulesFor_parens List.mem_cons_self) hsees, rfl⟩

/-- The rule for remainders does not find a double that stands in parentheses. -/
example :
    let cx : Context := { dialect := .ansi }
    let half : Literal := .double (some 0.5)
    let e : Host.Expr := .call "%%" [.symbol "x", .call "(" [.literal half] []] []
    lower cx e = .ok (.binary (.column "x") .mod (.literal half), []) ∧
      lower cx e.bare = .ok (.call "MOD" [.column "x", .literal half], []) := by
  constructor <;> rfl

end Lowering

end SqlVerbs
