import SqlVerbs.Error

/-!
# Results with warnings

A step towards SQL either fails, or gives a result and the warnings that came up on the way.
-/

namespace SqlVerbs

/-- A result with the warnings raised on the way, in order, or an error. -/
def Noted (α : Type) : Type := Except Error (α × List Warning)

namespace Noted

variable {α β : Type}

protected def pure (a : α) : Noted α := .ok (a, [])

/-- Runs a step on a result; the warnings of both are kept. -/
protected def bind (x : Noted α) (f : α → Noted β) : Noted β :=
  match x with
  | .error e => .error e
  | .ok (a, before) =>
    match f a with
    | .error e => .error e
    | .ok (b, after) => .ok (b, before ++ after)

instance : Monad Noted where
  pure := Noted.pure
  bind := Noted.bind

def fail (e : Error) : Noted α := .error e

def warn (warnings : List Warning) : Noted Unit := .ok ((), warnings)

/-- A step that raises no warning. -/
def ofExcept : Except Error α → Noted α
  | .ok a => .ok (a, [])
  | .error e => .error e

def toExcept : Noted α → Except Error α
  | .ok (a, _) => .ok a
  | .error e => .error e

/-- The results of several steps in order, or the first error. -/
def all : List (Noted α) → Noted (List α)
  | [] => pure []
  | first :: rest => do
    let a ← first
    return a :: (← all rest)

/-- The result of a step that may be absent. -/
def optional : Option (Noted α) → Noted (Option α)
  | none => pure none
  | some x => do return some (← x)

theorem bind_pure_id (x : Noted α) : Noted.bind x Noted.pure = x := by
  match x with
  | .error _ => rfl
  | .ok (a, w) => exact congrArg (fun all => Except.ok (a, all)) (List.append_nil w)

theorem pure_bind_eq (a : α) (f : α → Noted β) : Noted.bind (Noted.pure a) f = f a := by
  unfold Noted.bind Noted.pure
  dsimp only
  generalize f a = y
  match y with
  | .error _ => rfl
  | .ok (_, _) => rfl

theorem bind_bind_eq {γ : Type} (x : Noted α) (f : α → Noted β) (g : β → Noted γ) :
    Noted.bind (Noted.bind x f) g = Noted.bind x (fun a => Noted.bind (f a) g) := by
  match x with
  | .error _ => rfl
  | .ok (a, w) =>
    unfold Noted.bind
    dsimp only
    generalize f a = y
    match y with
    | .error _ => rfl
    | .ok (b, v) =>
      dsimp only
      generalize g b = z
      match z with
      | .error _ => rfl
      | .ok (c, u) => exact congrArg (fun all => Except.ok (c, all)) (List.append_assoc w v u)

instance : LawfulMonad Noted :=
  LawfulMonad.mk' Noted (fun x => bind_pure_id x) (fun a f => pure_bind_eq a f)
    (fun x f g => bind_bind_eq x f g)

end Noted

end SqlVerbs
