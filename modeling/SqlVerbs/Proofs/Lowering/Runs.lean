import Mathlib.Data.List.Forall2
import SqlVerbs.Proofs.Lowering.Nodes

/-!
# Two runs of lowering

Two runs are compared step by step: the first one stops with an error that is granted to it, or both
fail alike, or both have results, with warnings that are alike. The runs need not look at the same
arguments for this, and not in the same order as they stand in the expression; it is enough that
whatever a rule does with an argument, it does in both runs. Most rules know nothing of an argument
but what it becomes. What a few of them read off the arguments as they are written, their view of
the call, has to be the same.
-/

namespace SqlVerbs

/-- The first run stops with one of these errors, or both runs fail alike, or both have results, and
these are related. -/
inductive StopsOr {α β : Type} (stops : Error → Prop) (r : α → β → Prop) :
    Except Error α → Except Error β → Prop
  | stopped {e : Error} {y : Except Error β} (h : stops e) : StopsOr stops r (.error e) y
  | failed (e : Error) : StopsOr stops r (.error e) (.error e)
  | done {a : α} {b : β} (h : r a b) : StopsOr stops r (.ok a) (.ok b)

namespace StopsOr

variable {α β α' β' : Type} {stops : Error → Prop} {r : α → β → Prop} {s : α' → β' → Prop}

theorem mono {r' : α → β → Prop} {x : Except Error α} {y : Except Error β}
    (h : StopsOr stops r x y) (hr : ∀ a b, r a b → r' a b) : StopsOr stops r' x y := by
  cases h with
  | stopped h => exact .stopped h
  | failed e => exact .failed e
  | done h => exact .done (hr _ _ h)

theorem bind {x : Except Error α} {y : Except Error β} {f : α → Except Error α'}
    {g : β → Except Error β'} (h : StopsOr stops r x y)
    (hf : ∀ a b, r a b → StopsOr stops s (f a) (g b)) : StopsOr stops s (x >>= f) (y >>= g) := by
  cases h with
  | stopped h => exact .stopped h
  | failed e => exact .failed e
  | done h => exact hf _ _ h

theorem eq_or_stopped {x y : Except Error α} (h : StopsOr stops Eq x y) :
    x = y ∨ ∃ e, stops e ∧ x = .error e := by
  cases h with
  | @stopped e _ h => exact .inr ⟨e, h, rfl⟩
  | failed e => exact .inl rfl
  | done h => exact .inl (congrArg _ h)

end StopsOr

/-- A relation between what two runs warn of, step by step. -/
class WarnsAlike (w : List Warning → List Warning → Prop) : Prop where
  refl (warnings : List Warning) : w warnings warnings
  append {before before' after after' : List Warning} :
    w before before' → w after after' → w (before ++ after) (before' ++ after')

instance : WarnsAlike Eq where
  refl _ := rfl
  append := congrArg₂ _

namespace Noted

variable {α β α' β' : Type} {w : List Warning → List Warning → Prop} {stops : Error → Prop}
  {r : α → β → Prop} {s : α' → β' → Prop}

/-- The first run stops, or both do the same with warnings that are alike. -/
def Compares (w : List Warning → List Warning → Prop) (stops : Error → Prop) (r : α → β → Prop)
    (x : Noted α) (y : Noted β) : Prop :=
  StopsOr stops (fun a b ↦ r a.1 b.1 ∧ w a.2 b.2) x y

namespace Compares

theorem fail (e : Error) : Compares w stops r (Noted.fail e) (Noted.fail e) := .failed e

variable [WarnsAlike w]

theorem pure {a : α} {b : β} (h : r a b) : Compares w stops r (Pure.pure a) (Pure.pure b) :=
  .done ⟨h, WarnsAlike.refl []⟩

omit [WarnsAlike w] in
theorem warn {warnings warnings' : List Warning} (h : w warnings warnings') :
    Compares w stops Eq (Noted.warn warnings) (Noted.warn warnings') :=
  .done ⟨rfl, h⟩

theorem refl (x : Noted α) : Compares w stops Eq x x := by
  match x with
  | .error e => exact .failed e
  | .ok (a, warnings) => exact .done ⟨rfl, WarnsAlike.refl warnings⟩

theorem bind {x : Noted α} {y : Noted β} {f : α → Noted α'} {g : β → Noted β'}
    (hx : Compares w stops r x y) (hf : ∀ a b, r a b → Compares w stops s (f a) (g b)) :
    Compares w stops s (x >>= f) (y >>= g) := by
  cases hx with
  | stopped h => exact .stopped h
  | failed e => exact .failed e
  | @done first second h =>
    obtain ⟨a, before⟩ := first
    obtain ⟨b, before'⟩ := second
    obtain ⟨hab, hbefore⟩ := h
    change StopsOr _ _ (Noted.bind (.ok (a, before)) f) (Noted.bind (.ok (b, before')) g)
    rw [Noted.bind, Noted.bind]
    have hrest := hf a b hab
    generalize f a = x, g b = y at hrest
    cases hrest with
    | stopped h => exact .stopped h
    | failed e => exact .failed e
    | done h => exact .done ⟨h.1, WarnsAlike.append hbefore h.2⟩

theorem ofExcept (x : Except Error α) :
    Compares w stops (fun a b ↦ a = b ∧ x = .ok a) (Noted.ofExcept x) (Noted.ofExcept x) := by
  cases x with
  | error e => exact .failed e
  | ok a => exact .pure ⟨rfl, rfl⟩

/-- A step with the same result in both runs, and then steps that are compared for it. -/
theorem andThen {x y : Noted α} {f : α → Noted α'} {g : α → Noted β'}
    (hx : Compares w stops Eq x y) (hf : ∀ a, Compares w stops s (f a) (g a)) :
    Compares w stops s (x >>= f) (y >>= g) :=
  .bind hx fun a _ h ↦ h ▸ hf a

theorem all {items items' : List (Noted α)}
    (h : List.Forall₂ (Compares w stops Eq) items items') :
    Compares w stops Eq (Noted.all items) (Noted.all items') := by
  induction h with
  | nil => exact .refl _
  | cons hfirst _ ih => exact hfirst.andThen fun a ↦ ih.andThen fun rest ↦ .refl _

theorem optional {x x' : Option (Noted α)} (h : Option.Rel (Compares w stops Eq) x x') :
    Compares w stops Eq (Noted.optional x) (Noted.optional x') := by
  cases h with
  | none => exact .refl _
  | some hx => exact hx.andThen fun a ↦ .refl _

end Compares

end Noted

namespace Lowering

open Noted (Compares)

/-! ## Views of arguments -/

/-- The text of a string literal. -/
def stringLiteral? : Host.Expr → Option String
  | .literal (.string (some text)) => some text
  | _ => none

/-- For a two-sided formula: does its condition always hold? -/
def formula? : Host.Expr → Option Bool
  | .call name [cond, _] _ => if name = "~" then some (isTrue cond) else none
  | _ => none

/-- The formulas up to the first that always holds, or up to the first argument that is none. -/
def formulas : List (Option Host.Expr) → List (Option Bool)
  | [] => []
  | slot :: later =>
    match slot.bind formula? with
    | some false => some false :: formulas later
    | found => [found]

theorem formulas_cons_inj {slot slot' : Option Host.Expr} {later later' : List (Option Host.Expr)}
    (h : formulas (slot :: later) = formulas (slot' :: later')) :
    slot.bind formula? = slot'.bind formula? ∧
      (slot.bind formula? = some false → formulas later = formulas later') := by
  simp only [formulas] at h
  generalize slot.bind formula? = x, slot'.bind formula? = x' at h ⊢
  split at h <;> split at h <;> simp_all

/-- What a rule reads off its arguments as they are written. -/
inductive View where
  | nothing
  /-- Is there a double literal? -/
  | double (found : Bool)
  | literal (value : Option Literal)
  | bounds (values : Option (Literal × Literal))
  | text (value : Option String)
  | formulas (conditions : List (Option Bool))
deriving DecidableEq

/-- What a rule of a kind reads off its placed arguments. -/
def viewOf (cx : Context) (placement : Placement Host.Expr) : RuleKind → View
  | .modulo => .double (cx.dialect.moduloFunction.isSome &&
      ((placement.slot? 0).any isDoubleLiteral || (placement.slot? 1).any isDoubleLiteral))
  | .ntile => .literal ((placement.slot? 1).bind Host.Expr.literal?)
  | .substr _ => .bounds do
      return (← (placement.slot? 1).bind Host.Expr.literal?,
        ← (placement.slot? 2).bind Host.Expr.literal?)
  | .raw => .text ((placement.slot? 0).bind stringLiteral?)
  | .paste .. => .text ((placement.keywords.get? "sep").bind stringLiteral?)
  | .caseWhen => .formulas (formulas placement.slots)
  | _ => .nothing

attribute [grind =] viewOf

/-- The placed arguments of a call as they are written. -/
def Call.written (call : Call) : Placement Host.Expr :=
  (⟨call.slots, call.keywords, []⟩ : Placement Operand).map Operand.source

theorem viewOf_written (cx : Context) (name : String) (source : Host.Expr)
    (placement : Placement Operand) (kind : RuleKind) :
    viewOf cx (Call.written ⟨name, source, placement.slots, placement.keywords⟩) kind =
      viewOf cx (placement.map Operand.source) kind := by
  cases kind <;> rfl

theorem Call.slot?_written (call : Call) (index : Nat) :
    call.written.slot? index = (call.operand? index).map Operand.source :=
  Placement.slot?_map Operand.source _ index

theorem Call.sep?_written (call : Call) :
    call.written.keywords.get? "sep" = (call.keywords.get? "sep").map Operand.source :=
  Bindings.get?_mapValues Operand.source call.keywords "sep"

/-! ## Arguments -/

variable {w : List Warning → List Warning → Prop} {stops : Error → Prop}

/-- The same argument in both runs, perhaps written in another way. -/
structure Operand.Meets (w : List Warning → List Warning → Prop) (stops : Error → Prop)
    (operand operand' : Operand) : Prop where
  result : Compares w stops Eq operand.result operand'.result
  /-- The sides of formulas. -/
  sides : (formula? operand.source).isSome = true → (formula? operand'.source).isSome = true →
    List.Forall₂ (Compares w stops Eq) operand.sides operand'.sides

/-- The same call in both runs. -/
structure Call.Meets (w : List Warning → List Warning → Prop) (stops : Error → Prop)
    (call call' : Call) : Prop where
  name : call.name = call'.name
  source : w [.missingWindowOrder call.source.deparse] [.missingWindowOrder call'.source.deparse]
  slots : List.Forall₂ (Option.Rel (Operand.Meets w stops)) call.slots call'.slots
  keyword : ∀ name, Option.Rel (Operand.Meets w stops)
    (call.keywords.get? name) (call'.keywords.get? name)

/-- The same branch in both runs. -/
structure Branch.Meets (w : List Warning → List Warning → Prop) (stops : Error → Prop)
    (branch branch' : Branch) : Prop where
  always : branch.always = branch'.always
  cond : Compares w stops Eq branch.cond branch'.cond
  value : Compares w stops Eq branch.value branch'.value

theorem Operand.branch?_eq (operand : Operand) :
    operand.branch? =
      match formula? operand.source, operand.sides with
      | some always, [cond, value] => some ⟨always, cond, value⟩
      | _, _ => none := by
  obtain ⟨source, result, sides⟩ := operand
  unfold Operand.branch? formula?
  split
  · split <;> simp_all
  · rename_i hother
    split
    · split at * <;> grind
    · rfl

theorem Operand.always_eq (operand : Operand) (branch : Branch)
    (h : operand.branch? = some branch) : formula? operand.source = some branch.always := by
  rw [operand.branch?_eq] at h
  split at h
  · cases h
    assumption
  · cases h

/-- An argument is a branch in both runs, or in none. -/
theorem branch?_meets {operand operand' : Operand} (hoperand : operand.Meets w stops operand')
    (hformula : formula? operand.source = formula? operand'.source) :
    Option.Rel (Branch.Meets w stops) operand.branch? operand'.branch? := by
  rw [operand.branch?_eq, operand'.branch?_eq, ← hformula]
  cases hsource : formula? operand.source with
  | none => exact .none
  | some always =>
    have hsides := hoperand.sides (by simp [hsource]) (by simp [← hformula, hsource])
    generalize operand.sides = sides, operand'.sides = sides' at hsides
    obtain _ | ⟨hcond, _ | ⟨hvalue, _ | _⟩⟩ := hsides
    · exact .none
    · exact .none
    · exact .some ⟨rfl, hcond, hvalue⟩
    · exact .none

variable [WarnsAlike w]

theorem Operand.Meets.optional {x x' : Option Operand}
    (hx : Option.Rel (Operand.Meets w stops) x x') :
    Compares w stops Eq (Noted.optional (x.map Operand.result))
      (Noted.optional (x'.map Operand.result)) := by
  cases hx with
  | none => exact .refl _
  | some hoperand => exact .optional (.some hoperand.result)

namespace Call.Meets

variable {call call' : Call} (h : call.Meets w stops call')

include h

omit [WarnsAlike w] in
theorem invalid {α : Type} (index : Nat) (reason : String) :
    Compares w stops (Eq (α := α)) (call.invalid index reason) (call'.invalid index reason) := by
  rw [Call.invalid, Call.invalid, h.name]
  exact .fail _

omit [WarnsAlike w] in
theorem operand? (index : Nat) :
    Option.Rel (Operand.Meets w stops) (call.operand? index) (call'.operand? index) := by
  unfold Call.operand?
  have hslots := h.slots
  generalize call.slots = slots, call'.slots = slots' at hslots
  induction hslots generalizing index with
  | nil => exact .none
  | cons hslot _ ih =>
    cases index with
    | zero => exact hslot
    | succ index => simpa using ih index

theorem operand (index : Nat) :
    Compares w stops (fun operand operand' ↦ operand.Meets w stops operand' ∧
      call.operand? index = some operand ∧ call'.operand? index = some operand')
      (call.operand index) (call'.operand index) := by
  rw [Call.operand, Call.operand, Call.invalid, Call.invalid, h.name]
  have hoperand := h.operand? index
  generalize call.operand? index = x, call'.operand? index = x' at hoperand
  cases hoperand with
  | none => exact .fail _
  | some hoperand => exact .pure ⟨hoperand, rfl, rfl⟩

theorem arg (index : Nat) : Compares w stops Eq (call.arg index) (call'.arg index) :=
  .bind (h.operand index) fun _ _ hoperand ↦ hoperand.1.result

theorem arg? (index : Nat) : Compares w stops Eq (call.arg? index) (call'.arg? index) :=
  Operand.Meets.optional (h.operand? index)

theorem args : Compares w stops Eq call.args call'.args := by
  refine .all ?_
  rw [h.slots.length_eq, List.forall₂_map_left_iff, List.forall₂_map_right_iff, List.forall₂_same]
  intro index _
  exact h.arg index

end Call.Meets

/-! ## Rules -/

section Rules

variable {call call' : Call} (h : call.Meets w stops call')

include h

theorem modulo_compares {cx : Context}
    (hview : viewOf cx call.written .modulo = viewOf cx call'.written .modulo) :
    Compares w stops Eq (modulo cx call) (modulo cx call') := by
  refine .bind (h.operand 0) fun dividend dividend' ⟨hdividend, hleft, hleft'⟩ ↦ ?_
  refine .bind (h.operand 1) fun divisor divisor' ⟨hdivisor, hright, hright'⟩ ↦ ?_
  refine hdividend.result.andThen fun left ↦ hdivisor.result.andThen fun right ↦ ?_
  simp only [viewOf, Call.slot?_written, hleft, hleft', hright, hright', Option.map_some,
    Option.any_some, View.double.injEq] at hview
  cases hfunction : cx.dialect.moduloFunction with
  | none => exact .refl _
  | some function =>
    rw [hfunction, Option.isSome_some, Bool.true_and, Bool.true_and] at hview
    dsimp only
    rw [hview]
    exact .refl _

theorem slice_compares {cx : Context} {fn : String}
    (hview : viewOf cx call.written (.substr fn) = viewOf cx call'.written (.substr fn)) :
    Compares w stops Eq (slice call fn) (slice call' fn) := by
  refine (h.arg 0).andThen fun text ↦ (h.arg 1).andThen fun start ↦ (h.arg 2).andThen fun stop ↦ ?_
  refine .bind (h.operand 1) fun first first' ⟨_, hfirst, hfirst'⟩ ↦ ?_
  refine .bind (h.operand 2) fun last last' ⟨_, hlast, hlast'⟩ ↦ ?_
  simp only [viewOf, Call.slot?_written, hfirst, hfirst', hlast, hlast', Option.map_some,
    Option.bind_some, View.bounds.injEq] at hview
  rw [Call.invalid, Call.invalid, h.name]
  -- Only two literals count; if one of them is missing, the other one does not matter.
  cases hx : first.source.literal? <;> cases hy : last.source.literal? <;>
    cases hx' : first'.source.literal? <;> cases hy' : last'.source.literal? <;>
    simp_all <;> exact .refl _

theorem separator_compares {cx : Context} {standard : String} {style : ConcatStyle}
    (hview : viewOf cx call.written (.paste standard style) =
      viewOf cx call'.written (.paste standard style)) :
    Compares w stops Eq (call.separator standard) (call'.separator standard) := by
  unfold Call.separator
  simp only [viewOf, Call.sep?_written, View.text.injEq] at hview
  rw [h.slots.length_eq, Call.invalid, Call.invalid, h.name]
  have hkeyword := h.keyword "sep"
  generalize call.keywords.get? "sep" = x, call'.keywords.get? "sep" = x' at hkeyword hview
  cases hkeyword with
  | none => exact .refl _
  | some _ =>
    simp only [Option.map_some, Option.bind_some, stringLiteral?] at hview ⊢
    split at hview <;> split at hview <;> simp_all <;> exact .refl _

theorem raw_compares {cx : Context}
    (hview : viewOf cx call.written .raw = viewOf cx call'.written .raw)
    (ordering ordering' : Noted (List Sql.Expr)) :
    Compares w stops Eq (applyRule cx ordering call .raw) (applyRule cx ordering' call' .raw) := by
  refine .bind (h.operand 0) fun text text' ⟨_, htext, htext'⟩ ↦ ?_
  simp only [viewOf, Call.slot?_written, htext, htext', Option.map_some, Option.bind_some,
    View.text.injEq, stringLiteral?] at hview
  rw [Call.invalid, Call.invalid, h.name]
  split at hview <;> split at hview <;> simp_all <;> exact .refl _

/-- The formulas of the slots are what the branches are made of. -/
theorem branchesFrom_compares (index : Nat) {slots slots' : List (Option Operand)}
    (hslots : List.Forall₂ (Option.Rel (Operand.Meets w stops)) slots slots')
    (hview : formulas (slots.map (Option.map Operand.source)) =
      formulas (slots'.map (Option.map Operand.source))) :
    Compares w stops Eq (branchesFrom call index slots) (branchesFrom call' index slots') := by
  induction hslots generalizing index with
  | nil => exact .refl _
  | @cons slot slot' later later' hslot _ ih =>
    rw [List.map_cons, List.map_cons] at hview
    obtain ⟨hfirst, hlater⟩ := formulas_cons_inj hview
    rw [branchesFrom, branchesFrom]
    cases hslot with
    | none => exact h.invalid index _
    | @some operand operand' hoperand =>
      have hbranch := branch?_meets hoperand hfirst
      have halways := operand.always_eq
      simp only [Option.bind_some]
      generalize operand.branch? = x, operand'.branch? = x' at hbranch halways
      cases hbranch with
      | none => exact h.invalid index _
      | @some branch branch' hbranch =>
        dsimp only
        rw [hbranch.always]
        split
        · exact hbranch.value.andThen fun value ↦ .refl _
        · rename_i hnever
          refine hbranch.cond.andThen fun cond ↦ hbranch.value.andThen fun value ↦ ?_
          have hformula : formula? operand.source = some false := by
            rw [halways branch rfl, hbranch.always, Bool.eq_false_iff.mpr hnever]
          exact (ih (index + 1) (hlater hformula)).andThen fun rest ↦ .refl _

theorem caseWhen_compares {cx : Context}
    (hview : viewOf cx call.written .caseWhen = viewOf cx call'.written .caseWhen) :
    Compares w stops Eq (caseWhen call) (caseWhen call') := by
  refine (branchesFrom_compares h 1 h.slots (View.formulas.inj hview)).andThen fun result ↦ ?_
  refine (Operand.Meets.optional (h.keyword ".default")).andThen fun default ↦ ?_
  rw [Call.invalid, Call.invalid, h.name]
  exact .refl _

variable {ordering ordering' : Noted (List Sql.Expr)}
  (hordering : Compares w stops Eq ordering ordering') (cx : Context)

include hordering

omit h in
theorem aggregate_compares (fn : Sql.Expr) :
    Compares w stops Eq (aggregate cx ordering fn) (aggregate cx ordering' fn) := by
  unfold aggregate
  cases cx.frame with
  | none => exact .refl _
  | some frame =>
    split
    · exact .refl _
    · split
      · exact .refl _
      · exact hordering.andThen fun order ↦ .refl _

theorem keywordOrder_compares :
    Compares w stops Eq (call.keywordOrder ordering) (call'.keywordOrder ordering') := by
  unfold Call.keywordOrder
  have hkeyword := h.keyword "order_by"
  generalize call.keywords.get? "order_by" = x, call'.keywords.get? "order_by" = x' at hkeyword
  cases hkeyword with
  | none => exact hordering
  | some hoperand => exact hoperand.result.andThen fun term ↦ .refl _

omit hordering in
/-- Only the warning of a missing order tells what the call was. -/
theorem overWindow_compares (fn : Sql.Expr) (order : List Sql.Expr) (frame : Option Sql.Frame) :
    Compares w stops Eq (overWindow cx call.source fn order frame)
      (overWindow cx call'.source fn order frame) := by
  unfold overWindow
  split
  · exact .refl _
  · refine .andThen ?_ fun _ ↦ .refl _
    split
    · exact .warn h.source
    · exact .refl _

theorem running_compares (fn : Sql.Expr) :
    Compares w stops Eq (running cx ordering call fn) (running cx ordering' call' fn) :=
  hordering.andThen fun order ↦ overWindow_compares h cx fn order _

theorem ranking_compares (fn : Sql.Expr) :
    Compares w stops Eq (ranking cx ordering call fn) (ranking cx ordering' call' fn) := by
  refine (h.arg? 0).andThen fun term ↦ .andThen ?_ fun order ↦ overWindow_compares h cx fn order _
  cases term with
  | none => exact hordering
  | some term => exact .refl _

theorem buckets_compares
    (hview : viewOf cx call.written .ntile = viewOf cx call'.written .ntile) :
    Compares w stops Eq (buckets cx ordering call) (buckets cx ordering' call') := by
  refine .bind (h.operand 1) fun count count' ⟨_, hcount, hcount'⟩ ↦ ?_
  simp only [viewOf, Call.slot?_written, hcount, hcount', Option.map_some, Option.bind_some,
    View.literal.injEq] at hview
  cases hsource : count.source <;> cases hsource' : count'.source <;>
    simp only [hsource, hsource', Host.Expr.literal?, reduceCtorEq, Option.some.injEq] at hview <;>
    first
    | exact h.invalid 2 _
    | subst hview
      dsimp only
      split
      · exact ranking_compares h hordering cx _
      · exact h.invalid 2 _

theorem offset_compares (fn : String) :
    Compares w stops Eq (offset cx ordering call fn) (offset cx ordering' call' fn) := by
  refine (h.arg 0).andThen fun value ↦ (h.arg? 2).andThen fun default ↦ ?_
  refine (h.arg? 1).andThen fun distance ↦ ?_
  exact (keywordOrder_compares h hordering).andThen fun order ↦ overWindow_compares h cx _ order _

theorem positional_compares (fn : String) :
    Compares w stops Eq (positional cx ordering call fn) (positional cx ordering' call' fn) := by
  refine (h.arg 0).andThen fun value ↦ (h.arg? 1).andThen fun position ↦ ?_
  exact (keywordOrder_compares h hordering).andThen fun order ↦ overWindow_compares h cx _ order _

/-- No rule asks for the mode. -/
theorem applyRule_compares (strict strict' : Bool) {kind : RuleKind}
    (hview : viewOf cx call.written kind = viewOf cx call'.written kind) :
    Compares w stops Eq (applyRule { cx with strict } ordering call kind)
      (applyRule { cx with strict := strict' } ordering' call' kind) := by
  -- Most kinds take one or two arguments, and what they do with the results is the same.
  have hone {α : Type} (f : Sql.Expr → Noted α) :
      Compares w stops Eq (call.arg 0 >>= f) (call'.arg 0 >>= f) :=
    (h.arg 0).andThen fun e ↦ .refl _
  have htwo {α : Type} (f : Sql.Expr → Sql.Expr → Noted α) : Compares w stops Eq
      (call.arg 0 >>= fun a ↦ call.arg 1 >>= f a) (call'.arg 0 >>= fun a ↦ call'.arg 1 >>= f a) :=
    (h.arg 0).andThen fun a ↦ (h.arg 1).andThen fun b ↦ .refl _
  have hall {α : Type} (f : List Sql.Expr → Noted α) :
      Compares w stops Eq (call.args >>= f) (call'.args >>= f) :=
    h.args.andThen fun args ↦ .refl _
  cases kind with
  | not | negate | isNull | desc | cast => exact hone _
  | infixOp | elemOf | integerDivide | power | logBase | regex => exact htwo _
  | scalar | combine => exact hall _
  | identity => exact h.arg 0
  | aggregate | countDistinct | median =>
    exact (h.arg 0).andThen fun e ↦ aggregate_compares hordering cx _
  | countAll => exact aggregate_compares hordering cx _
  | cumulative => exact (h.arg 0).andThen fun e ↦ running_compares h hordering cx _
  | cumulativeProduct =>
    refine (h.arg 0).andThen fun e ↦ ?_
    exact (running_compares h hordering cx _).andThen fun sum ↦ .refl _
  | ranking => exact ranking_compares h hordering cx _
  | ntile => exact buckets_compares h hordering cx hview
  | offset fn => exact offset_compares h hordering cx fn
  | positional fn => exact positional_compares h hordering cx fn
  | conditional =>
    refine (h.arg 0).andThen fun cond ↦ (h.arg 1).andThen fun value ↦ ?_
    exact (h.arg? 2).andThen fun otherwise ↦ .refl _
  | caseWhen => exact caseWhen_compares h hview
  | between =>
    refine (h.arg 0).andThen fun e ↦ (h.arg 1).andThen fun low ↦ ?_
    exact (h.arg 2).andThen fun high ↦ .refl _
  | modulo => exact modulo_compares h hview
  | raw => exact raw_compares h hview ordering ordering'
  | substr fn => exact slice_compares h hview
  | round => exact (h.arg 0).andThen fun x ↦ (h.arg? 1).andThen fun digits ↦ .refl _
  | paste separator style =>
    exact (separator_compares h hview).andThen fun separator ↦ hall _
  | unsupported => exact .refl _

end Rules

/-! ## Calls -/

section Calls

variable {α : Type} (cx : Context) {args : List α} {named : List (String × α)} {f g : α → Operand}
  (hargs : ∀ e ∈ args, (f e).Meets w stops (g e))
  (hnamed : ∀ entry ∈ named, (f entry.2).Meets w stops (g entry.2))

include hargs hnamed

theorem passThrough_compares (name : String) :
    Compares w stops Eq (passThrough cx name (args.map f) (Bindings.mapValues f named))
      (passThrough cx name (args.map g) (Bindings.mapValues g named)) := by
  unfold passThrough
  split
  · exact .fail _
  · split
    · exact .fail _
    · refine .andThen (.all ?_) fun lowered ↦ .refl _
      simp only [List.map_append, Bindings.values, Bindings.mapValues, List.map_map]
      refine List.rel_append ?_ ?_ <;>
        rw [List.forall₂_map_left_iff, List.forall₂_map_right_iff, List.forall₂_same]
      · exact fun e he ↦ (hargs e he).result
      · exact fun entry hentry ↦ (hnamed entry hentry).result

/-- Two calls by one rule. What is done without a rule is left to the mode. -/
theorem lowerCall_compares {ordering ordering' : Noted (List Sql.Expr)}
    (hordering : Compares w stops Eq ordering ordering') (strict strict' : Bool) {name : String}
    {source source' : Host.Expr}
    (hsource : w [.missingWindowOrder source.deparse] [.missingWindowOrder source'.deparse])
    (hpass : cx.dialect.rulesFor name = none → Compares w stops Eq
      (passThrough { cx with strict } name (args.map f) (Bindings.mapValues f named))
      (passThrough { cx with strict := strict' } name (args.map g) (Bindings.mapValues g named)))
    (hview : ∀ rules rule placement, cx.dialect.rulesFor name = some rules →
      resolveRule args named rules = some (rule, placement) →
      viewOf cx (placement.map fun e ↦ (f e).source) rule.kind =
        viewOf cx (placement.map fun e ↦ (g e).source) rule.kind) :
    Compares w stops Eq
      (lowerCall { cx with strict } ordering source name (args.map f) (Bindings.mapValues f named))
      (lowerCall { cx with strict := strict' } ordering' source' name (args.map g)
        (Bindings.mapValues g named)) := by
  simp only [lowerCall, resolveRule_map, countedArguments_map]
  cases hrules : cx.dialect.rulesFor name with
  | none => exact hpass hrules
  | some rules =>
    dsimp only
    cases hresolved : resolveRule args named rules with
    | none => exact .refl _
    | some found =>
      -- Both calls choose one rule and place their arguments alike, as placing looks at names and
      -- numbers only.
      obtain ⟨rule, placement⟩ := found
      obtain ⟨hslots, hkeywords⟩ := resolveRule_forall hargs hnamed hresolved
      simp only [Option.map_some]
      refine .andThen (.refl _) fun _ ↦ applyRule_compares ?_ hordering cx strict strict' ?_
      · refine ⟨rfl, hsource, ?_, ?_⟩
        · rw [Placement.map, Placement.map, List.forall₂_map_left_iff, List.forall₂_map_right_iff,
            List.forall₂_same]
          intro slot hslot
          cases slot with
          | none => exact .none
          | some e => exact .some (hslots _ hslot e rfl)
        · intro key
          rw [Placement.map, Placement.map, Bindings.get?_mapValues, Bindings.get?_mapValues]
          cases hentry : placement.keywords.get? key with
          | none => exact .none
          | some e => exact .some (hkeywords _ (Bindings.mem_of_get? hentry))
      · rw [viewOf_written, viewOf_written, Placement.map_map, Placement.map_map]
        exact hview rules rule placement hrules hresolved

end Calls

end Lowering

end SqlVerbs
