import SqlVerbs.Query.Stage

/-!
# Conditions on windows

A condition on rows cannot use window functions. They become columns of a subquery, and the
condition is on those.
-/

namespace SqlVerbs

/-- The first numbered name from `n` on that is not taken. Looking at one more name than there are
taken ones is enough. -/
def freshName (taken : List String) (n : Nat) : Nat → String
  | 0 => Compile.numbered "col" n
  | tries + 1 =>
    let candidate := Compile.numbered "col" n
    if taken.contains candidate then freshName taken (n + 1) tries else candidate

/-- The windows that were taken out of an expression, with their names. -/
abbrev Windows := List (String × Sql.Expr)

/-- The name for the next window. -/
def windowName (visible : List String) (windows : Windows) : String :=
  let taken := visible ++ windows.map Prod.fst
  freshName taken (windows.length + 1) taken.length

mutual

/-- Takes the outermost windows out of an expression, from left to right, and leaves names in
their places. -/
def takeWindows (visible : List String) : Sql.Expr → Windows → Sql.Expr × Windows
  | .window fn partition order frame, found =>
    -- Windows inside of a window go with it.
    let name := windowName visible found
    (.column name, found ++ [(name, .window fn partition order frame)])
  | .literal value, found => (.literal value, found)
  | .identifier qualifier name, found => (.identifier qualifier name, found)
  | .star, found => (.star, found)
  | .raw text, found => (.raw text, found)
  | .list elements, found =>
    let (elements, found) := takeWindowsAll visible elements found
    (.list elements, found)
  | .function name args distinct, found =>
    let (args, found) := takeWindowsAll visible args found
    (.function name args distinct, found)
  | .binary l op r, found =>
    let (l, found) := takeWindows visible l found
    let (r, found) := takeWindows visible r found
    (.binary l op r, found)
  | .unary op e, found =>
    let (e, found) := takeWindows visible e found
    (.unary op e, found)
  | .isNull e, found =>
    let (e, found) := takeWindows visible e found
    (.isNull e, found)
  | .between e low high, found =>
    let (e, found) := takeWindows visible e found
    let (low, found) := takeWindows visible low found
    let (high, found) := takeWindows visible high found
    (.between e low high, found)
  | .elemOf e elements, found =>
    let (e, found) := takeWindows visible e found
    let (elements, found) := takeWindows visible elements found
    (.elemOf e elements, found)
  | .caseWhen branches otherwise, found =>
    let (branches, found) := takeWindowsBranches visible branches found
    let (otherwise, found) := takeWindowsOption visible otherwise found
    (.caseWhen branches otherwise, found)
  | .cast e type, found =>
    let (e, found) := takeWindows visible e found
    (.cast e type, found)
  | .withinGroup fn order, found =>
    let (fn, found) := takeWindows visible fn found
    let (order, found) := takeWindowsAll visible order found
    (.withinGroup fn order, found)
  | .desc e, found =>
    let (e, found) := takeWindows visible e found
    (.desc e, found)

def takeWindowsAll (visible : List String) : List Sql.Expr → Windows → List Sql.Expr × Windows
  | [], found => ([], found)
  | e :: rest, found =>
    let (e, found) := takeWindows visible e found
    let (rest, found) := takeWindowsAll visible rest found
    (e :: rest, found)

def takeWindowsBranches (visible : List String) :
    List (Sql.Expr × Sql.Expr) → Windows → List (Sql.Expr × Sql.Expr) × Windows
  | [], found => ([], found)
  | (cond, value) :: rest, found =>
    let (cond, found) := takeWindows visible cond found
    let (value, found) := takeWindows visible value found
    let (rest, found) := takeWindowsBranches visible rest found
    ((cond, value) :: rest, found)

def takeWindowsOption (visible : List String) :
    Option Sql.Expr → Windows → Option Sql.Expr × Windows
  | none, found => (none, found)
  | some e, found =>
    let (e, found) := takeWindows visible e found
    (some e, found)

end

namespace Level

/-- Writes windows as columns, one after the other. -/
def setWindows (level : Level) (windows : Windows) : Level :=
  windows.foldl (fun level entry => level.setColumn entry.1 (level.resolve true entry.2)) level

/-- Hides all columns but these. -/
def keepOnly (level : Level) (visible : List String) : Level :=
  { level with columns := level.columns.filter (fun entry => visible.contains entry.1) }

end Level

/-- Filters by a condition that uses windows. -/
def Stage.hoist (target : Target) (stage : Stage) (condition : Sql.Expr) : Compile Stage := do
  let visible := stage.level.names
  let (condition, windows) := takeWindows visible condition []
  -- The names of the windows are visible only between the two levels.
  let nested ← { stage with level := stage.level.setWindows windows }.wrap target
  return { nested with level := (nested.level.addFilter condition).keepOnly visible }

end SqlVerbs
