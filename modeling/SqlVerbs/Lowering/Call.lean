import SqlVerbs.Dialect.Basic
import SqlVerbs.Host.Deparse
import SqlVerbs.Lowering.Noted
import SqlVerbs.Lowering.Placement
import SqlVerbs.Sql.Expr

/-!
# Calls with placed arguments

What a rule sees of a call: its slots and keywords, each argument together with the SQL that it
becomes.
-/

namespace SqlVerbs.Lowering

/-- Where an expression stands. -/
structure Context where
  dialect : Dialect
  /-- The grouping columns, over which windows are partitioned. -/
  groups : List String := []
  /-- The ordering terms of windows that have none of their own. -/
  order : List Host.Expr := []
  frame : Option Sql.Frame := none
  /-- Aggregates are taken over windows. -/
  windowed : Bool := false
  /-- Functions without a rule are errors. -/
  strict : Bool := false

/-- An argument and what it becomes. -/
structure Operand where
  source : Host.Expr
  result : Noted Sql.Expr
  /-- What the positional arguments become, if the argument is a call. -/
  sides : List (Noted Sql.Expr)

/-- A call whose arguments are placed for a rule. -/
structure Call where
  name : String
  source : Host.Expr
  slots : List (Option Operand)
  keywords : Bindings Operand

namespace Call

/-- An error about an argument, counted from one. -/
def invalid {α : Type} (call : Call) (index : Nat) (reason : String) : Noted α :=
  Noted.fail (.invalidArgument call.name index reason)

/-- The argument in a slot, if there is one. -/
def operand? (call : Call) (index : Nat) : Option Operand := (call.slots[index]?).join

def operand (call : Call) (index : Nat) : Noted Operand :=
  match call.operand? index with
  | some operand => pure operand
  | none => call.invalid (index + 1) "is missing"

/-- What the argument in a slot becomes. -/
def arg (call : Call) (index : Nat) : Noted Sql.Expr := do (← call.operand index).result

def arg? (call : Call) (index : Nat) : Noted (Option Sql.Expr) :=
  Noted.optional ((call.operand? index).map Operand.result)

def args (call : Call) : Noted (List Sql.Expr) :=
  Noted.all ((List.range call.slots.length).map call.arg)

end Call

end SqlVerbs.Lowering
