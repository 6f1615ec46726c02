import SqlVerbs.Proofs.Local.Names
import SqlVerbs.Query.Stage

/-!
# Outcomes of compilation steps

What holds of every result of a step, and which results it can have, whatever was compiled before
it.
-/

namespace SqlVerbs

namespace Compile

variable {α β : Type}

/-- If the step has a result, it has this property. -/
def Ensures (p : α → Prop) (x : Compile α) : Prop :=
  ∀ progress a progress', x progress = .ok (a, progress') → p a

namespace Ensures

variable {p : α → Prop} {q : β → Prop}

theorem pure {a : α} (h : p a) : Ensures p (Pure.pure a) := by
  rintro _ _ _ ⟨⟩
  exact h

theorem fail (e : Error) : Ensures p (Compile.fail e) := nofun

theorem bind {x : Compile α} {f : α → Compile β} (hx : Ensures p x)
    (hf : ∀ a, p a → Ensures q (f a)) : Ensures q (x >>= f) := by
  intro progress b progress' h
  obtain ⟨⟨a, between⟩, ha, hb⟩ := bind_eq_ok.1 h
  exact hf a (hx progress a between ha) between b progress' hb

theorem mono {p' : α → Prop} {x : Compile α} (hx : Ensures p x) (h : ∀ a, p a → p' a) :
    Ensures p' x := fun progress a progress' ha ↦ h a (hx progress a progress' ha)

theorem and {p' : α → Prop} {x : Compile α} (hx : Ensures p x) (hx' : Ensures p' x) :
    Ensures (fun a ↦ p a ∧ p' a) x :=
  fun progress a progress' ha ↦ ⟨hx progress a progress' ha, hx' progress a progress' ha⟩

theorem trivial (x : Compile α) : Ensures (fun _ ↦ True) x := fun _ _ _ _ ↦ True.intro

theorem ofExcept (x : Except Error α) : Ensures (fun a ↦ x = .ok a) (Compile.ofExcept x) := by
  intro progress a progress' h
  cases x with
  | error e => cases h
  | ok a' => cases h; rfl

theorem mapM {items : List β} {f : β → Compile α} (h : ∀ item ∈ items, Ensures p (f item)) :
    Ensures (fun results ↦ ∀ a ∈ results, p a) (items.mapM f) := by
  induction items with
  | nil => exact .pure (List.forall_mem_nil _)
  | cons item later ih =>
    rw [List.forall_mem_cons] at h
    rw [List.mapM_cons]
    refine .bind h.1 (fun a ha ↦ .bind (ih h.2) (fun results hresults ↦ .pure ?_))
    exact List.forall_mem_cons.2 ⟨ha, hresults⟩

theorem mapM_forall₂ {r : β → α → Prop} {items : List β} {f : β → Compile α}
    (h : ∀ item ∈ items, Ensures (r item) (f item)) :
    Ensures (List.Forall₂ r items) (items.mapM f) := by
  induction items with
  | nil => exact .pure .nil
  | cons item later ih =>
    rw [List.forall_mem_cons] at h
    rw [List.mapM_cons]
    refine .bind h.1 (fun a ha ↦ .bind (ih h.2) (fun results hresults ↦ .pure ?_))
    exact .cons ha hresults

theorem ofNoted (x : Noted α) :
    Ensures (fun a ↦ ∃ warnings, x = .ok (a, warnings)) (Compile.ofNoted x) := by
  intro progress a progress' h
  match x with
  | .error e => cases h
  | .ok (a', warnings) => cases h; exact ⟨warnings, rfl⟩

end Ensures

/-- The step can have this result. -/
def Yields (x : Compile α) (a : α) : Prop := ∃ progress progress', x progress = .ok (a, progress')

theorem Ensures.of_yields {p : α → Prop} {x : Compile α} (h : Ensures p x) {a : α}
    (ha : x.Yields a) : p a := by
  obtain ⟨progress, progress', ha⟩ := ha
  exact h progress a progress' ha

theorem Yields.ofNoted {x : Noted α} {a : α} {warnings : List Warning}
    (h : x = .ok (a, warnings)) : (Compile.ofNoted x).Yields a := by
  rw [h]
  exact ⟨{}, _, rfl⟩

theorem Ensures.yields (x : Compile α) : Ensures x.Yields x :=
  fun progress _ progress' h ↦ ⟨progress, progress', h⟩

/-- Whatever was compiled before it, the step has no other result than this one, or none. -/
def Settled (x : Compile α) : Prop := ∀ a a', x.Yields a → x.Yields a' → a = a'

theorem bind_of_ok {x : Compile α} {progress progress' : Progress} {a : α}
    (h : x progress = .ok (a, progress')) (f : α → Compile β) :
    (x >>= f) progress = f a progress' := by
  change (x progress).bind _ = _
  rw [h]
  rfl

theorem bind_of_error {x : Compile α} {progress : Progress} {e : Error}
    (h : x progress = .error e) (f : α → Compile β) : (x >>= f) progress = .error e := by
  change (x progress).bind _ = _
  rw [h]
  rfl

/-- What the step yields once, it yields whatever was compiled before it. -/
def Repeatable (x : Compile α) : Prop :=
  ∀ a, x.Yields a → ∀ progress, ∃ after, x progress = .ok (a, after)

namespace Repeatable

theorem pure (a : α) : Repeatable (Pure.pure a) := by
  rintro _ ⟨_, _, ⟨⟩⟩ progress
  exact ⟨progress, rfl⟩

theorem bind {x : Compile α} {f : α → Compile β} (hx : Repeatable x)
    (hf : ∀ a, Repeatable (f a)) : Repeatable (x >>= f) := by
  rintro b ⟨start, finish, h⟩ progress
  obtain ⟨⟨a, between⟩, ha, hb⟩ := bind_eq_ok.1 h
  obtain ⟨between', ha'⟩ := hx a ⟨start, between, ha⟩ progress
  obtain ⟨after, hb'⟩ := hf a b ⟨between, finish, hb⟩ between'
  exact ⟨after, (bind_of_ok ha' f).trans hb'⟩

theorem ofExcept (x : Except Error α) : Repeatable (Compile.ofExcept x) := by
  intro a h progress
  rw [(Ensures.ofExcept x).of_yields h]
  exact ⟨progress, rfl⟩

theorem ofNoted (x : Noted α) : Repeatable (Compile.ofNoted x) := by
  intro a h progress
  obtain ⟨warnings, hx⟩ := (Ensures.ofNoted x).of_yields h
  rw [hx]
  exact ⟨_, rfl⟩

theorem mapM {items : List β} {f : β → Compile α} (h : ∀ item, Repeatable (f item)) :
    Repeatable (items.mapM f) := by
  induction items with
  | nil => exact .pure []
  | cons item later ih =>
    rw [List.mapM_cons]
    exact .bind (h item) fun a ↦ .bind ih fun results ↦ .pure (a :: results)

theorem settled {x : Compile α} (hx : Repeatable x) : Settled x := by
  rintro a a' h ⟨progress, after, h'⟩
  obtain ⟨_, hagain⟩ := hx a h progress
  exact congrArg Prod.fst (Except.ok.inj (hagain.symm.trans h'))

end Repeatable

theorem ofExcept_bind_congr {x : Except Error α} {f g : α → Compile β}
    (h : ∀ a, x = .ok a → f a = g a) :
    (Compile.ofExcept x >>= f) = (Compile.ofExcept x >>= g) := by
  cases x with
  | error e => rfl
  | ok a =>
    funext progress
    exact congrFun (h a rfl) progress

theorem mapM_congr {items : List β} {f g : β → Compile α}
    (h : ∀ item ∈ items, f item = g item) : items.mapM f = items.mapM g := by
  induction items with
  | nil => rfl
  | cons item later ih =>
    rw [List.forall_mem_cons] at h
    rw [List.mapM_cons, List.mapM_cons, h.1, ih h.2]

/-! ## Steps apart from warnings -/

/-- The result of a step and the number of subqueries after it, without the warnings. -/
def outcome (x : Compile α) (progress : Progress) : Except Error (α × Nat) :=
  (x progress).map (fun result ↦ (result.1, result.2.subqueries))

/-- Apart from warnings, the step does the same whatever was warned of before. -/
def Steady (x : Compile α) : Prop :=
  ∀ progress progress' : Progress, progress.subqueries = progress'.subqueries →
    x.outcome progress = x.outcome progress'

namespace Steady

theorem pure (a : α) : Steady (Pure.pure a) := by
  intro progress progress' h
  exact congrArg (fun n ↦ Except.ok (a, n)) h

/-- From the same number of subqueries, a step fails twice alike or has the same result twice. -/
theorem twice {x : Compile α} (hx : Steady x) {progress progress' : Progress}
    (h : progress.subqueries = progress'.subqueries) :
    (∃ e, x progress = .error e ∧ x progress' = .error e) ∨
      ∃ a after after', x progress = .ok (a, after) ∧ x progress' = .ok (a, after') ∧
        after.subqueries = after'.subqueries := by
  have houtcome := hx progress progress' h
  rw [outcome, outcome] at houtcome
  match hresult : x progress, hresult' : x progress' with
  | .error e, .error e' =>
    rw [hresult, hresult'] at houtcome
    cases houtcome
    exact .inl ⟨e, rfl, rfl⟩
  | .error e, .ok result' =>
    rw [hresult, hresult'] at houtcome
    cases houtcome
  | .ok result, .error e' =>
    rw [hresult, hresult'] at houtcome
    cases houtcome
  | .ok (a, after), .ok (a', after') =>
    rw [hresult, hresult'] at houtcome
    obtain ⟨rfl, hcount⟩ := Prod.mk.inj (Except.ok.inj houtcome)
    exact .inr ⟨a, after, after', rfl, rfl, hcount⟩

theorem bind {x : Compile α} {f : α → Compile β} (hx : Steady x) (hf : ∀ a, Steady (f a)) :
    Steady (x >>= f) := by
  intro progress progress' h
  obtain ⟨e, herror, herror'⟩ | ⟨a, between, between', hok, hok', hcount⟩ := hx.twice h
  · rw [outcome, outcome, bind_of_error herror, bind_of_error herror']
  · rw [outcome, outcome, bind_of_ok hok, bind_of_ok hok']
    exact hf a between between' hcount

theorem ofExcept (x : Except Error α) : Steady (Compile.ofExcept x) := by
  intro progress progress' h
  cases x with
  | error e => rfl
  | ok a => exact congrArg (fun n ↦ Except.ok (a, n)) h

theorem ofNoted (x : Noted α) : Steady (Compile.ofNoted x) := by
  intro progress progress' h
  match x with
  | .error e => rfl
  | .ok (a, warnings) => exact congrArg (fun n ↦ Except.ok (a, n)) h

theorem nextLabel : Steady Compile.nextLabel := by
  intro progress progress' h
  simp [outcome, Compile.nextLabel, Except.map, h]

theorem mapM {items : List β} {f : β → Compile α} (h : ∀ item, Steady (f item)) :
    Steady (items.mapM f) := by
  induction items with
  | nil => exact .pure []
  | cons item later ih =>
    rw [List.mapM_cons]
    exact .bind (h item) (fun a ↦ .bind ih (fun results ↦ .pure (a :: results)))

end Steady

end Compile

theorem Stage.orderBy_repeatable (target : Target) (stage : Stage) :
    Compile.Repeatable (stage.orderBy target) :=
  .mapM fun _ ↦ .bind (.bind (.ofExcept _) fun _ ↦ .ofNoted _) fun _ ↦ .pure _

section Nesting

variable {target : Target} {stage : Stage} {order : List Sql.Expr}
  (horder : (stage.orderBy target).Yields order) (progress : Progress)

include horder

/-- A stage whose order can be compiled can be nested in order. -/
theorem Stage.nestedOrderBy_total :
    ∃ nested after, stage.nestedOrderBy target progress = .ok (nested, after) := by
  rw [nestedOrderBy]
  split
  · exact ⟨order, stage.orderBy_repeatable target order horder progress⟩
  · exact ⟨[], progress, rfl⟩

theorem Stage.reopen_total :
    ∃ opened after, stage.reopen target progress = .ok (opened, after) := by
  rw [reopen, wrapIf]
  split
  · obtain ⟨nested, after, hnested⟩ := nestedOrderBy_total horder progress
    exact ⟨_, _, Compile.bind_of_ok hnested _⟩
  · exact ⟨stage, progress, rfl⟩

end Nesting

end SqlVerbs
