import SqlVerbs.Lowering.Shape
import SqlVerbs.Proofs.Bindings
import SqlVerbs.Proofs.Sql.Columns

/-!
# What the shapes of rules are made of

Where the columns and windows in the arguments of a call pass a test, so do those in the shapes that
rules put around the arguments.
-/

namespace SqlVerbs

namespace Noted

variable {α β : Type}

/-- There is this result. -/
def Yields (x : Noted α) (a : α) : Prop := ∃ warnings, x = .ok (a, warnings)

/-- If there is a result, it has this property. -/
def Ensures (p : α → Prop) (x : Noted α) : Prop := ∀ a warnings, x = .ok (a, warnings) → p a

theorem yields_warn {warnings : List Warning} {x : Noted α} {a : α} :
    (warn warnings >>= fun _ ↦ x).Yields a ↔ x.Yields a := by
  match x with
  | .error e => exact ⟨nofun, nofun⟩
  | .ok (b, after) =>
    constructor
    · rintro ⟨_, ⟨⟩⟩
      exact ⟨after, rfl⟩
    · rintro ⟨_, ⟨⟩⟩
      exact ⟨warnings ++ after, rfl⟩

namespace Ensures

variable {p : α → Prop} {q : β → Prop}

theorem pure {a : α} (h : p a) : Ensures p (Pure.pure a) := by
  rintro _ _ ⟨⟩
  exact h

theorem fail (e : Error) : Ensures p (Noted.fail e) := nofun

theorem bind {x : Noted α} {f : α → Noted β} (hx : Ensures p x) (hf : ∀ a, p a → Ensures q (f a)) :
    Ensures q (x >>= f) := by
  intro b warnings h
  match x with
  | .error e => cases h
  | .ok (a, before) =>
    have ha : p a := hx a before rfl
    change Noted.bind (.ok (a, before)) f = _ at h
    rw [Noted.bind] at h
    split at h
    · cases h
    · rename_i hfa
      cases h
      exact hf a ha b _ hfa

theorem mono {p' : α → Prop} {x : Noted α} (hx : Ensures p x) (h : ∀ a, p a → p' a) :
    Ensures p' x := fun a warnings ha ↦ h a (hx a warnings ha)

/-- The result is one that there is. -/
theorem yields (x : Noted α) : Ensures x.Yields x := fun _ warnings h ↦ ⟨warnings, h⟩

theorem of_yields {x : Noted α} (hx : Ensures p x) {a : α} (h : x.Yields a) : p a := by
  obtain ⟨warnings, h⟩ := h
  exact hx a warnings h

theorem trivial (x : Noted α) : Ensures (fun _ ↦ True) x := fun _ _ _ ↦ True.intro

theorem all {items : List (Noted α)} (h : ∀ x ∈ items, Ensures p x) :
    Ensures (fun as ↦ ∀ a ∈ as, p a) (Noted.all items) := by
  induction items with
  | nil => exact .pure (by simp)
  | cons x rest ih =>
    rw [List.forall_mem_cons] at h
    refine .bind h.1 (fun a ha ↦ .bind (ih h.2) (fun as has ↦ .pure ?_))
    simpa using ⟨ha, has⟩

theorem optional {x : Option (Noted α)} (h : ∀ y ∈ x, Ensures p y) :
    Ensures (fun a ↦ ∀ b ∈ a, p b) (Noted.optional x) := by
  cases x with
  | none => exact .pure (by simp)
  | some y => exact .bind (h y rfl) (fun a ha ↦ .pure (by simpa using ha))

end Ensures

end Noted

namespace Lowering

open Noted (Ensures)
open Sql.Expr (NodeTest Passes)

variable {t : NodeTest}

/-! ## Arguments -/

/-- What the argument becomes passes, and so does what its own arguments become. -/
def Operand.Upholds (t : NodeTest) (operand : Operand) : Prop :=
  Ensures (Passes t) operand.result ∧ ∀ side ∈ operand.sides, Ensures (Passes t) side

/-- What all arguments of the call become passes. -/
structure Call.Upholds (t : NodeTest) (call : Call) : Prop where
  slots : ∀ slot ∈ call.slots, ∀ operand ∈ slot, operand.Upholds t
  keywords : ∀ entry ∈ call.keywords, entry.2.Upholds t

namespace Call.Upholds

variable {call : Call} (h : call.Upholds t)

include h

theorem of_operand? {index : Nat} {operand : Operand} (hop : call.operand? index = some operand) :
    operand.Upholds t := by
  rw [operand?, Option.join_eq_some_iff] at hop
  exact h.slots _ (List.mem_of_getElem? hop) _ rfl

theorem operand (index : Nat) : Ensures (Operand.Upholds t) (call.operand index) := by
  rw [Call.operand]
  split
  · rename_i hop
    exact .pure (h.of_operand? hop)
  · exact .fail _

theorem arg (index : Nat) : Ensures (Passes t) (call.arg index) :=
  .bind (h.operand index) (fun _ hop ↦ hop.1)

theorem arg? (index : Nat) : Ensures (∀ e ∈ ·, Passes t e) (call.arg? index) := by
  refine .optional (fun x hx ↦ ?_)
  obtain ⟨operand, hop, rfl⟩ := Option.map_eq_some_iff.1 hx
  exact (h.of_operand? hop).1

theorem args : Ensures (∀ e ∈ ·, Passes t e) call.args := by
  refine .all (fun x hx ↦ ?_)
  obtain ⟨index, -, rfl⟩ := List.mem_map.1 hx
  exact h.arg index

theorem of_keyword {name : String} {operand : Operand}
    (hop : call.keywords.get? name = some operand) : operand.Upholds t :=
  h.keywords (name, operand) (Bindings.mem_of_get? hop)

end Call.Upholds

theorem Call.upholds_any (call : Call) : call.Upholds .any := by
  have hoperand (operand : Operand) : operand.Upholds .any :=
    ⟨fun e _ _ ↦ e.passes_any, fun _ _ e _ _ ↦ e.passes_any⟩
  exact ⟨fun _ _ operand _ ↦ hoperand operand, fun entry _ ↦ hoperand entry.2⟩

theorem wholeNumber_passes {e : Sql.Expr} (he : e.Passes t) : (wholeNumber e).Passes t := by
  unfold wholeNumber
  split
  · split <;> simp
  · exact he

/-! ## Shapes of rules -/

section Shapes

variable {call : Call} (h : call.Upholds t)

theorem negated_passes {e : Sql.Expr} (he : e.Passes t) :
    (negated e).Passes t := by
  unfold negated
  split
  · split <;> simp
  · simp
  · simpa using he

theorem membership_passes {e items : Sql.Expr} (he : e.Passes t)
    (hitems : items.Passes t) :
    (membership e items).Passes t := by
  unfold membership
  split <;> simp_all

theorem logarithm_passes (style : LogStyle) {x base : Sql.Expr} (hx : x.Passes t)
    (hbase : base.Passes t) : (logarithm style x base).Passes t := by
  cases style <;> simp [logarithm, Sql.Expr.call, hx, hbase]

theorem chain_passes (separator : String) {first : Sql.Expr} {rest : List Sql.Expr}
    (hfirst : first.Passes t) (hrest : ∀ e ∈ rest, Passes t e) :
    (rest.foldl (chainPart separator) first).Passes t := by
  induction rest generalizing first with
  | nil => exact hfirst
  | cons part rest ih =>
    rw [List.forall_mem_cons] at hrest
    refine ih ?_ hrest.2
    unfold chainPart
    split <;> simp [hfirst, hrest.1]

theorem joined_passes (style : ConcatStyle) (separator : String) {parts : List Sql.Expr}
    (hparts : ∀ e ∈ parts, Passes t e) :
    (joined style separator parts).Passes t := by
  unfold joined
  split
  · split <;> simpa [Sql.Expr.call] using hparts
  · simp
  · rw [List.forall_mem_cons] at hparts
    exact chain_passes separator hparts.1 hparts.2

include h

theorem modulo_passes (cx : Context) : Ensures (Passes t) (modulo cx call) := by
  refine .bind (h.operand 0) (fun dividend hdividend ↦ ?_)
  refine .bind (h.operand 1) (fun divisor hdivisor ↦ ?_)
  refine .bind hdividend.1 (fun left hleft ↦ .bind hdivisor.1 (fun right hright ↦ ?_))
  split
  · split <;> exact .pure (by simp [Sql.Expr.call, hleft, hright])
  · exact .pure (by simp [hleft, hright])

theorem slice_passes (fn : String) : Ensures (Passes t) (slice call fn) := by
  refine .bind (h.arg 0) (fun text htext ↦ .bind (h.arg 1) (fun start hstart ↦ ?_))
  refine .bind (h.arg 2) (fun stop hstop ↦ .bind (h.operand 1) (fun first _ ↦ ?_))
  refine .bind (h.operand 2) (fun last _ ↦ ?_)
  have hlength {length : Sql.Expr} (hlength : length.Passes t) :
      Ensures (Passes t) (pure (.call fn [text, wholeNumber start, length])) :=
    .pure (by simp [Sql.Expr.call, htext, wholeNumber_passes hstart, hlength])
  split
  · split
    · exact hlength (by simp)
    · exact .bind (.fail _) (fun _ h ↦ hlength h)
  · exact hlength (by simp [hstop, hstart])

omit h in
/-- The sides of a branch are what the sides of the formula become. -/
theorem Operand.sides_of_branch? {operand : Operand} {branch : Branch}
    (hbranch : operand.branch? = some branch) : operand.sides = [branch.cond, branch.value] := by
  obtain ⟨source, result, sides⟩ := operand
  unfold Operand.branch? at hbranch
  split at hbranch
  · rename_i hsides
    split at hbranch
    · cases hbranch
      exact hsides
    · cases hbranch
  · cases hbranch

omit h in
theorem branchesFrom_passes (index : Nat) {slots : List (Option Operand)}
    (hslots : ∀ slot ∈ slots, ∀ operand ∈ slot, Operand.Upholds t operand) :
    Ensures (fun result ↦ (∀ b ∈ result.1, Passes t b.1 ∧ Passes t b.2) ∧
      ∀ e ∈ result.2, Passes t e) (branchesFrom call index slots) := by
  induction slots generalizing index with
  | nil => exact .pure (by simp)
  | cons slot later ih =>
    rw [List.forall_mem_cons] at hslots
    rw [branchesFrom]
    split
    · exact .fail _
    · rename_i branch hbranch
      obtain ⟨operand, hoperand, hbranch⟩ := Option.bind_eq_some_iff.1 hbranch
      have hsides := (hslots.1 operand hoperand).2
      rw [operand.sides_of_branch? hbranch, List.forall_mem_cons, List.forall_mem_singleton]
        at hsides
      obtain ⟨hcond, hvalue⟩ := hsides
      split
      · exact .bind hvalue (fun value hvalue ↦ .pure (by simpa using hvalue))
      · refine .bind hcond (fun cond hcond ↦ .bind hvalue (fun value hvalue ↦ ?_))
        refine .bind (ih (index + 1) hslots.2) (fun rest hrest ↦ .pure ?_)
        exact ⟨List.forall_mem_cons.2 ⟨⟨hcond, hvalue⟩, hrest.1⟩, hrest.2⟩

theorem caseWhen_passes : Ensures (Passes t) (caseWhen call) := by
  refine .bind (branchesFrom_passes 1 h.slots) (fun result hresult ↦ ?_)
  have hdefault : Ensures (∀ e ∈ ·, Passes t e)
      (Noted.optional ((call.keywords.get? ".default").map Operand.result)) := by
    refine .optional (fun x hx ↦ ?_)
    obtain ⟨operand, hop, rfl⟩ := Option.map_eq_some_iff.1 hx
    exact (h.of_keyword hop).1
  refine .bind hdefault (fun default hdefault ↦ ?_)
  split
  · exact .fail _
  · refine .pure ((Sql.Expr.passes_caseWhen _ _).2 ⟨hresult.1, fun e he ↦ ?_⟩)
    cases default with
    | none => exact hresult.2 e he
    | some default => exact hdefault e he

end Shapes

end Lowering

end SqlVerbs
