import SqlVerbs.Host.Literal
import SqlVerbs.Sql.Frame
import SqlVerbs.Sql.Operator

/-!
# SQL expressions

The tree that a host expression becomes and that printing consumes. Parentheses are not part of it.
-/

namespace SqlVerbs.Sql

/-- A SQL expression. -/
inductive Expr where
  | literal (value : Literal)
  | identifier (qualifier : Option String) (name : String)
  | star
  | list (items : List Expr)
  | function (name : String) (args : List Expr) (distinct : Bool)
  | binary (left : Expr) (op : BinaryOp) (right : Expr)
  | unary (op : UnaryOp) (arg : Expr)
  | isNull (arg : Expr)
  | between (arg low high : Expr)
  | elemOf (arg items : Expr)
  | caseWhen (branches : List (Expr × Expr)) (otherwise : Option Expr)
  | cast (arg : Expr) (type : String)
  | window (function : Expr) (partition order : List Expr) (frame : Option Frame)
  | withinGroup (function : Expr) (order : List Expr)
  | desc (arg : Expr)
  /-- Text that is written as it is. -/
  | raw (text : String)
deriving Inhabited

namespace Expr

/-- A column without a qualifier. -/
def column (name : String) : Expr := .identifier none name

/-- A function call without `DISTINCT`. -/
def call (name : String) (args : List Expr) : Expr := .function name args false

mutual

/-- Does the tree hold an `OVER` clause? -/
def isWindowed : Expr → Bool
  | .window .. => true
  | .list items => anyWindowed items
  | .function _ args _ => anyWindowed args
  | .binary l _ r => isWindowed l || isWindowed r
  | .unary _ e | .isNull e | .cast e _ | .desc e => isWindowed e
  | .between e low high => isWindowed e || isWindowed low || isWindowed high
  | .elemOf e items => isWindowed e || isWindowed items
  | .caseWhen branches otherwise => anyBranchWindowed branches || optionWindowed otherwise
  | .withinGroup fn order => isWindowed fn || anyWindowed order
  | .literal _ | .identifier .. | .star | .raw _ => false

def anyWindowed : List Expr → Bool
  | [] => false
  | e :: rest => isWindowed e || anyWindowed rest

def anyBranchWindowed : List (Expr × Expr) → Bool
  | [] => false
  | (cond, value) :: rest => isWindowed cond || isWindowed value || anyBranchWindowed rest

def optionWindowed : Option Expr → Bool
  | none => false
  | some e => isWindowed e

end

mutual

/-- The unqualified columns of the tree in visiting order, with repetitions. -/
def columnReferences : Expr → List String
  | .identifier none name => [name]
  | .identifier (some _) _ | .literal _ | .star | .raw _ => []
  | .list items => referencesAll items
  | .function _ args _ => referencesAll args
  | .binary l _ r => columnReferences l ++ columnReferences r
  | .unary _ e | .isNull e | .cast e _ | .desc e => columnReferences e
  | .between e low high => columnReferences e ++ columnReferences low ++ columnReferences high
  | .elemOf e items => columnReferences e ++ columnReferences items
  | .caseWhen branches otherwise => referencesBranches branches ++ referencesOption otherwise
  | .window fn partition order _ =>
    columnReferences fn ++ referencesAll partition ++ referencesAll order
  | .withinGroup fn order => columnReferences fn ++ referencesAll order

def referencesAll : List Expr → List String
  | [] => []
  | e :: rest => columnReferences e ++ referencesAll rest

def referencesBranches : List (Expr × Expr) → List String
  | [] => []
  | (cond, value) :: rest =>
    columnReferences cond ++ columnReferences value ++ referencesBranches rest

def referencesOption : Option Expr → List String
  | none => []
  | some e => columnReferences e

end

mutual

/-- Replaces unqualified columns by their definitions. All columns are replaced at once: what is
put in is not searched again. -/
def inline (defs : String → Option Expr) : Expr → Expr
  | .identifier none name => (defs name).getD (.identifier none name)
  | .identifier (some qualifier) name => .identifier (some qualifier) name
  | .literal value => .literal value
  | .star => .star
  | .raw text => .raw text
  | .list items => .list (inlineAll defs items)
  | .function name args distinct => .function name (inlineAll defs args) distinct
  | .binary l op r => .binary (inline defs l) op (inline defs r)
  | .unary op e => .unary op (inline defs e)
  | .isNull e => .isNull (inline defs e)
  | .between e low high => .between (inline defs e) (inline defs low) (inline defs high)
  | .elemOf e items => .elemOf (inline defs e) (inline defs items)
  | .caseWhen branches otherwise =>
    .caseWhen (inlineBranches defs branches) (inlineOption defs otherwise)
  | .cast e type => .cast (inline defs e) type
  | .window fn partition order frame =>
    .window (inline defs fn) (inlineAll defs partition) (inlineAll defs order) frame
  | .withinGroup fn order => .withinGroup (inline defs fn) (inlineAll defs order)
  | .desc e => .desc (inline defs e)

def inlineAll (defs : String → Option Expr) : List Expr → List Expr
  | [] => []
  | e :: rest => inline defs e :: inlineAll defs rest

def inlineBranches (defs : String → Option Expr) : List (Expr × Expr) → List (Expr × Expr)
  | [] => []
  | (cond, value) :: rest => (inline defs cond, inline defs value) :: inlineBranches defs rest

def inlineOption (defs : String → Option Expr) : Option Expr → Option Expr
  | none => none
  | some e => some (inline defs e)

end

end Expr

end SqlVerbs.Sql
