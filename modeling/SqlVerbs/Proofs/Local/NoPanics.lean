import SqlVerbs.Proofs.Local.Evaluation
import SqlVerbs.Proofs.Local.Machine

/-!
# Local evaluation does not panic

Evaluation and folding on a machine, over the functions of the machine. What they give is what
evaluation and folding give, so no operation is ever outside its domain.
-/

namespace SqlVerbs.Local.Machine

open Calendar (DateTime)
open Host (Expr)

/-! ## The local functions -/

/-- Functions of one argument. Other functions than these have total operations only. -/
def callUnary (name : String) (x : Value) (named : Bindings Value) :
    Option (Machine Reason Value) :=
  match name with
  | "-" => some (negate x)
  | "as.Date" => some (asDate x named)
  | _ => (Local.callUnary name x named).map total

theorem callUnary_total (name : String) (x : Value) (named : Bindings Value) :
    callUnary name x named = (Local.callUnary name x named).map total := by
  unfold callUnary
  split
  · rw [negate_total]
    rfl
  · rw [asDate_total]
    rfl
  · rfl

/-- Functions of two arguments. -/
def callBinary (name : String) (x y : Value) (named : Bindings Value) :
    Option (Machine Reason Value) :=
  match ArithOp.ofName? name, CompareOp.ofName? name with
  | some op, _ => some (arith op x y)
  | _, some op => some (compare op x y)
  | none, none =>
    match name with
    | "&" => some (logic and3 x y)
    | "|" => some (logic or3 x y)
    | _ => (Local.callBinary name x y named).map total

theorem callBinary_total (name : String) (x y : Value) (named : Bindings Value) :
    callBinary name x y named = (Local.callBinary name x y named).map total := by
  cases harith : ArithOp.ofName? name with
  | some op =>
    simp only [callBinary, Local.callBinary, harith, arith_total]
    rfl
  | none =>
    cases hcompare : CompareOp.ofName? name with
    | some op =>
      simp only [callBinary, Local.callBinary, harith, hcompare, compare_total]
      rfl
    | none =>
      simp only [callBinary, harith, hcompare, logic_total]
      split <;> rfl

/-- Functions of three arguments. -/
def callTernary (name : String) (x y z : Value) (named : Bindings Value) :
    Option (Machine Reason Value) :=
  match name with
  | "substr" => some (substr x y z)
  | "ifelse" | "if_else" => some (ifElse x y z)
  | _ => (Local.callTernary name x y z named).map total

theorem callTernary_total (name : String) (x y z : Value) (named : Bindings Value) :
    callTernary name x y z named = (Local.callTernary name x y z named).map total := by
  unfold callTernary
  split
  · rw [substr_total]
    rfl
  · rw [ifElse_total]
    rfl
  · rw [ifElse_total]
    rfl
  · rfl

/-- The separator of strings that are joined. -/
def separatorOf (name : String) (named : Bindings Value) : Except Reason String :=
  if name = "paste" then
    match Bindings.get? named "sep" with
    | some s => scalarText s "sep"
    | none => pure " "
  else pure ""

/-- The text between rows that are joined. -/
def collapseOf (named : Bindings Value) : Except Reason (Option String) :=
  match Bindings.get? named "collapse" with
  | none | some .null => pure none
  | some c => do return some (← scalarText c "collapse")

theorem pasteCall_eq (name : String) (args : List Value) (named : Bindings Value) :
    Local.pasteCall name args named = (do
      Local.paste args (← separatorOf name named) (← collapseOf named)) := by
  unfold Local.pasteCall separatorOf collapseOf
  by_cases hname : name = "paste"
  · simp only [hname, if_true]
    cases Bindings.get? named "sep" <;> cases Bindings.get? named "collapse" with
    | none => rfl
    | some collapse => cases collapse <;> simp only [pure_bind, bind_assoc]
  · simp only [hname, if_false]
    cases Bindings.get? named "collapse" with
    | none => rfl
    | some collapse => cases collapse <;> simp only [pure_bind, bind_assoc]

/-- Joins strings with a separator that only `paste` lets one choose. -/
def pasteCall (name : String) (args : List Value) (named : Bindings Value) :
    Machine Reason Value := do
  paste args (← total (separatorOf name named)) (← total (collapseOf named))

theorem pasteCall_total (name : String) (args : List Value) (named : Bindings Value) :
    pasteCall name args named = total (Local.pasteCall name args named) := by
  rw [pasteCall_eq, pasteCall]
  exact bind_total rfl fun separator ↦ bind_total rfl fun collapse ↦
    paste_total args separator collapse

/-- Functions of any number of arguments. -/
def callVariadic (name : String) (args : List Value) (named : Bindings Value) :
    Option (Machine Reason Value) :=
  match name with
  | "paste" | "paste0" => some (pasteCall name args named)
  | _ => (Local.callVariadic name args named).map total

theorem callVariadic_total (name : String) (args : List Value) (named : Bindings Value) :
    callVariadic name args named = (Local.callVariadic name args named).map total := by
  unfold callVariadic
  split
  · rw [pasteCall_total]
    rfl
  · rw [pasteCall_total]
    rfl
  · rfl

/-- The entry of a function for a number of arguments. -/
def entry (now : DateTime) (name : String) (args : List Value) (named : Bindings Value) :
    Option (Machine Reason Value) :=
  match args with
  | [] => (callNullary now name).map total
  | [x] => callUnary name x named
  | [x, y] => callBinary name x y named
  | [x, y, z] => callTernary name x y z named
  | _ => none

theorem entry_total (now : DateTime) (name : String) (args : List Value) (named : Bindings Value) :
    entry now name args named = (Local.entry now name args named).map total := by
  match args with
  | [] => rfl
  | [x] => exact callUnary_total name x named
  | [x, y] => exact callBinary_total name x y named
  | [x, y, z] => exact callTernary_total name x y z named
  | _ :: _ :: _ :: _ :: _ => rfl

/-- Calls a local function. -/
def callLocal (now : DateTime) (name : String) (args : List Value) (named : Bindings Value) :
    Machine Reason Value :=
  match callVariadic name args named, entry now name args named with
  | some result, _ => result
  | none, some result => result
  | none, none =>
    if localFunctions.contains name then total (throw (.wrongArguments name args.length))
    else total (throw (.noFunction name))

theorem callLocal_total (now : DateTime) (name : String) (args : List Value)
    (named : Bindings Value) :
    callLocal now name args named = total (Local.callLocal now name args named) := by
  unfold callLocal Local.callLocal
  rw [callVariadic_total, entry_total]
  cases Local.callVariadic name args named with
  | some result => rfl
  | none =>
    cases Local.entry now name args named with
    | some result => rfl
    | none => exact total_ite ..

/-! ## Evaluation -/

/-- Reports a reason as the failure of an expression. -/
def blame {α : Type} (e : Expr) (x : Machine Reason α) : Machine Error α := do
  total (Local.blame e (← attempt x))

theorem blame_total {α : Type} (e : Expr) (x : Except Reason α) :
    blame e (total x) = total (Local.blame e x) := rfl

/-- The name that is chosen with a pronoun: spelled out, or computed. -/
def pronounMember (e member : Expr) (computed : Machine Error Value) : Machine Error String :=
  match spelledName? member with
  | some name => pure name
  | none => do total (Local.pronounMember e member (.ok (← computed)))

theorem pronounMember_total (e member : Expr) (computed : Except Error Value) :
    pronounMember e member (total computed) = total (Local.pronounMember e member computed) := by
  unfold pronounMember Local.pronounMember
  cases hname : spelledName? member with
  | some name => rfl
  | none => cases computed <;> rfl

/-- The values of several results, or the first failure. -/
def allValues {α : Type} : List (Machine Error α) → Machine Error (List α)
  | [] => pure []
  | first :: rest => do return (← first) :: (← allValues rest)

theorem allValues_total {α : Type} (values : List (Except Error α)) :
    allValues (values.map total) = total (Local.allValues values) := by
  induction values with
  | nil => rfl
  | cons first rest ih =>
    rw [List.map_cons, allValues, Local.allValues]
    exact bind_total rfl fun _ ↦ bind_total ih fun _ ↦ rfl

/-- The values of several named results, or the first failure. -/
def allNamedValues {α : Type} :
    List (String × Machine Error α) → Machine Error (List (String × α))
  | [] => pure []
  | (key, first) :: rest => do return (key, ← first) :: (← allNamedValues rest)

theorem allNamedValues_total {α : Type} (values : List (String × Except Error α)) :
    allNamedValues (values.map fun entry ↦ (entry.1, total entry.2)) =
      total (Local.allNamedValues values) := by
  induction values with
  | nil => rfl
  | cons first rest ih =>
    rw [List.map_cons, allNamedValues, Local.allNamedValues]
    exact bind_total rfl fun _ ↦ bind_total ih fun _ ↦ rfl

/-- The value of a call, from the values of its arguments. -/
def evalCall (scope : Scope) (name : String) (args : List Expr) (named : List (String × Expr))
    (values : List (Machine Error Value)) (namedValues : List (String × Machine Error Value)) :
    Machine Error Value :=
  let e := Expr.call name args named
  match Access.ofCall name args, values with
  | .pronoun p member, [_, computed] => do
    let chosen ← pronounMember e member computed
    match p with
    | .data => total (Local.blame e (throw .remoteColumnInComputation))
    | .env => total (Local.blame e (scope.binding chosen))
  | .member key, [target, _] => do
    let target ← target
    match key with
    | some key => total (Local.blame e (memberOf target key))
    | none => total (Local.blame e (throw .subscriptType))
  | .element, [target, index] => do blame e (elementOf (← target) (← index))
  | .subset, [target, index] => do blame e (subset (← target) (← index))
  | .qualified name, _ => total (Local.blame e (scope.lookup name))
  | _, _ => do
    let values ← allValues values
    blame e (callLocal scope.now name values (← allNamedValues namedValues))

theorem evalCall_total (scope : Scope) (name : String) (args : List Expr)
    (named : List (String × Expr)) (values : List (Except Error Value))
    (namedValues : List (String × Except Error Value)) :
    evalCall scope name args named (values.map total)
        (namedValues.map fun entry ↦ (entry.1, total entry.2)) =
      total (Local.evalCall scope name args named values namedValues) := by
  unfold evalCall Local.evalCall
  have hfunction : (do
      let values ← allValues (values.map total)
      blame (.call name args named) (callLocal scope.now name values
        (← allNamedValues (namedValues.map fun entry ↦ (entry.1, total entry.2))))) =
      total (do
        let values ← Local.allValues values
        Local.blame (.call name args named)
          (Local.callLocal scope.now name values (← Local.allNamedValues namedValues))) :=
    bind_total (allValues_total values) fun _ ↦
      bind_total (allNamedValues_total namedValues) fun _ ↦ by rw [callLocal_total, blame_total]
  match values with
  | [target, index] =>
    cases Access.ofCall name args with
    | pronoun p member =>
      refine bind_total (pronounMember_total _ _ _) fun _ ↦ ?_
      cases p <;> rfl
    | member key =>
      refine bind_total rfl fun _ ↦ ?_
      cases key <;> rfl
    | element =>
      exact bind_total rfl fun _ ↦ bind_total rfl fun _ ↦ by rw [elementOf_total, blame_total]
    | subset =>
      exact bind_total rfl fun _ ↦ bind_total rfl fun _ ↦ by rw [subset_total, blame_total]
    | qualified => rfl
    | function => exact hfunction
  | [] | [_] | _ :: _ :: _ :: _ =>
    cases Access.ofCall name args with
    | qualified => rfl
    | _ => exact hfunction

mutual

/-- The local value of an expression. -/
def eval (scope : Scope) : Expr → Machine Error Value
  | .literal value => pure (.ofLiteral value)
  | .vector items => pure (.atomic items)
  | .symbol name => total (Local.blame (.symbol name) (scope.lookup name))
  | .call name args named =>
    evalCall scope name args named (evalEach scope args) (evalEachNamed scope named)

/-- The local values of several expressions. -/
def evalEach (scope : Scope) : List Expr → List (Machine Error Value)
  | [] => []
  | e :: rest => eval scope e :: evalEach scope rest

/-- The local values of named arguments. -/
def evalEachNamed (scope : Scope) : List (String × Expr) → List (String × Machine Error Value)
  | [] => []
  | (key, e) :: rest => (key, eval scope e) :: evalEachNamed scope rest

end

theorem evalEach_total {scope : Scope} {args : List Expr}
    (h : ∀ e ∈ args, eval scope e = total (Local.eval scope e)) :
    evalEach scope args = (Local.evalEach scope args).map total := by
  induction args with
  | nil => rfl
  | cons e rest ih =>
    rw [List.forall_mem_cons] at h
    rw [evalEach, Local.evalEach, List.map_cons, h.1, ih h.2]

theorem evalEachNamed_total {scope : Scope} {named : List (String × Expr)}
    (h : ∀ entry ∈ named, eval scope entry.2 = total (Local.eval scope entry.2)) :
    evalEachNamed scope named =
      (Local.evalEachNamed scope named).map fun entry ↦ (entry.1, total entry.2) := by
  induction named with
  | nil => rfl
  | cons entry rest ih =>
    rw [List.forall_mem_cons] at h
    rw [evalEachNamed, Local.evalEachNamed, List.map_cons, h.1, ih h.2]

theorem eval_total (scope : Scope) (e : Expr) : eval scope e = total (Local.eval scope e) := by
  induction e using Expr.induction with
  | literal | vector => rw [eval, Local.eval, pure_eq_total]; rfl
  | symbol => rw [eval, Local.eval]
  | call name args named ihargs ihnamed =>
    rw [eval, Local.eval, evalEach_total ihargs, evalEachNamed_total ihnamed, evalCall_total]

/-! ## Folding -/

/-- Calls the function if every argument has a value and the function may run here. -/
def callFolded? (scope : Scope) (name : String) (args : List Folded)
    (named : List (String × Folded)) : Option (Machine Reason Value) :=
  if alwaysRemote.contains name then none
  else do
    let values ← valuesOf? args
    return callLocal scope.now name values (← namedValuesOf? named)

theorem callFolded?_total (scope : Scope) (name : String) (args : List Folded)
    (named : List (String × Folded)) :
    callFolded? scope name args named = (Local.callFolded? scope name args named).map total := by
  unfold callFolded? Local.callFolded?
  split
  · rfl
  · cases valuesOf? args with
    | none => rfl
    | some values =>
      cases namedValuesOf? named with
      | none => rfl
      | some namedValues => exact congrArg some (callLocal_total ..)

/-- Folds a call whose arguments are folded. -/
def foldCall (scope : Scope) (e : Expr) (name : String) (args : List Folded)
    (named : List (String × Folded)) : Machine Error Folded :=
  let touched := args.any Folded.touched || named.any (fun entry ↦ entry.2.touched)
  match callFolded? scope name args named with
  | some computed => do
    match ← attempt computed, touched with
    | result, true => total do return .bound e (← Local.blame e result)
    | .ok value, false => return .constant e value
    | .error _, false => total (rebuild name args named touched)
  | none => total (rebuild name args named touched)

theorem foldCall_total (scope : Scope) (e : Expr) (name : String) (args : List Folded)
    (named : List (String × Folded)) :
    foldCall scope e name args named = total (Local.foldCall scope e name args named) := by
  unfold foldCall Local.foldCall
  rw [callFolded?_total]
  cases Local.callFolded? scope name args named with
  | none => rfl
  | some result =>
    rw [Option.map_some]
    cases args.any Folded.touched || named.any fun entry ↦ entry.2.touched with
    | true => rfl
    | false => cases result <;> rfl

/-- Folds a form that never reaches the backend. -/
def foldLocal (scope : Scope) (name : String) (args : List Expr) (named : List (String × Expr)) :
    Machine Error Folded :=
  let e := Expr.call name args named
  match Access.ofCall name args with
  | .pronoun .data member => do
    return .remote (.symbol (← pronounMember e member (eval scope member))) false
  | _ => do return .bound e (← eval scope e)

theorem foldLocal_total (scope : Scope) (name : String) (args : List Expr)
    (named : List (String × Expr)) :
    foldLocal scope name args named = total (Local.foldLocal scope name args named) := by
  unfold foldLocal Local.foldLocal
  simp only [eval_total, pronounMember_total]
  cases Access.ofCall name args with
  | pronoun p member => cases p <;> exact bind_total rfl fun _ ↦ rfl
  | _ => exact bind_total rfl fun _ ↦ rfl

mutual

/-- Folds an expression. -/
def fold (scope : Scope) : Expr → Machine Error Folded
  | .literal value => pure (.constant (.literal value) (.ofLiteral value))
  | .vector items => pure (.constant (.vector items) (.atomic items))
  | .symbol name => pure (foldSymbol scope name)
  | .call name args named =>
    if alwaysLocal.contains name then foldLocal scope name args named
    else do
      let foldedArgs ← foldAll scope args
      foldCall scope (.call name args named) name foldedArgs (← foldNamed scope named)

/-- Folds several expressions. -/
def foldAll (scope : Scope) : List Expr → Machine Error (List Folded)
  | [] => pure []
  | e :: rest => do return (← fold scope e) :: (← foldAll scope rest)

/-- Folds named arguments. -/
def foldNamed (scope : Scope) : List (String × Expr) → Machine Error (List (String × Folded))
  | [] => pure []
  | (key, e) :: rest => do return (key, ← fold scope e) :: (← foldNamed scope rest)

end

theorem foldAll_total {scope : Scope} {args : List Expr}
    (h : ∀ e ∈ args, fold scope e = total (Local.fold scope e)) :
    foldAll scope args = total (Local.foldAll scope args) := by
  induction args with
  | nil => rfl
  | cons e rest ih =>
    rw [List.forall_mem_cons] at h
    rw [foldAll, Local.foldAll]
    exact bind_total h.1 fun _ ↦ bind_total (ih h.2) fun _ ↦ rfl

theorem foldNamed_total {scope : Scope} {named : List (String × Expr)}
    (h : ∀ entry ∈ named, fold scope entry.2 = total (Local.fold scope entry.2)) :
    foldNamed scope named = total (Local.foldNamed scope named) := by
  induction named with
  | nil => rfl
  | cons entry rest ih =>
    rw [List.forall_mem_cons] at h
    rw [foldNamed, Local.foldNamed]
    exact bind_total h.1 fun _ ↦ bind_total (ih h.2) fun _ ↦ rfl

theorem fold_total (scope : Scope) (e : Expr) : fold scope e = total (Local.fold scope e) := by
  induction e using Expr.induction with
  | literal | vector | symbol => rw [fold, Local.fold, pure_eq_total]; rfl
  | call name args named ihargs ihnamed =>
    rw [fold, Local.fold]
    split
    · exact foldLocal_total ..
    · exact bind_total (foldAll_total ihargs) fun _ ↦
        bind_total (foldNamed_total ihnamed) fun _ ↦ foldCall_total ..

/-- Replaces every locally computable part of an expression by its value. -/
def partialEval (scope : Scope) (e : Expr) : Machine Error Expr := do
  total (← fold scope e).residual

end SqlVerbs.Local.Machine

namespace SqlVerbs.Local

open Host (Expr)

/-- No operation of local evaluation panics, whatever the expression, the columns and the bindings
are. -/
theorem partialEval_does_not_panic (scope : Scope) (e : Expr) :
    (Machine.partialEval scope e).run = .ok (partialEval scope e) :=
  Machine.bind_total (Machine.fold_total scope e) fun _ ↦ rfl

end SqlVerbs.Local
