import SqlVerbs.Dialect.Basic
import SqlVerbs.Sql.Expr

/-!
# Printing SQL expressions

Operands get parentheses where the text would otherwise group differently from the tree, and
nowhere else: when they bind looser than the operator above them, or equally on a side where
regrouping would change the result.
-/

namespace SqlVerbs.Sql

namespace Expr

/-- How tightly the top of a tree binds. -/
def strength : Expr → Strength
  | .binary _ op _ => op.strength
  | .unary .neg _ => .sign
  | .unary .not _ => .negation
  | .between .. | .elemOf .. => .comparison
  | _ => .atom

end Expr

/-- The side of an operator on which an operand stands. -/
inductive Side where
  | left
  | right
deriving DecidableEq, Repr

/-- Do operands that bind as tightly as the operator need parentheses? On the left only operators
that do not chain ask for them. On the right they may go only in a chain of one operator that may be
grouped either way. -/
def equalNeedsParens (op : BinaryOp) (side : Side) (child : Expr) : Bool :=
  match side with
  | .left => op.associativity = .neither
  | .right =>
    match child with
    -- What the child itself begins with is not looked at.
    | .binary _ childOp _ => !(op.associativity = .both && childOp = op)
    | _ => true

/-- Does an operand of a binary operator need parentheses? -/
def needsParens (op : BinaryOp) (side : Side) (child : Expr) : Bool :=
  if op.strength.rank < child.strength.rank then false
  else if child.strength.rank < op.strength.rank then true
  else equalNeedsParens op side child

/-- Does an operand of `BETWEEN` or `IN` need parentheses? -/
def comparisonNeedsParens (child : Expr) : Bool :=
  child.strength.rank ≤ Strength.comparison.rank

/-- A text in parentheses, if they are needed. -/
def parensIf (needed : Bool) (text : String) : String :=
  if needed then "(" ++ text ++ ")" else text

def commaList (texts : List String) : String := ", ".intercalate texts

/-- The inside of an `OVER` clause. -/
def overText (partition order : List String) (frame : Option Frame) : String :=
  " ".intercalate
    ((if partition.isEmpty then [] else ["PARTITION BY " ++ commaList partition]) ++
      (if order.isEmpty then [] else ["ORDER BY " ++ commaList order]) ++
      (match frame with
        | some frame => [frame.render]
        | none => []))

namespace Expr

mutual

/-- The expression as SQL text of a dialect. -/
def render (d : Dialect) : Expr → String
  | .literal value => d.formatLiteral value
  | .identifier none name => d.quoteIdentifier name
  | .identifier (some qualifier) name =>
    d.quoteIdentifier qualifier ++ "." ++ d.quoteIdentifier name
  | .star => "*"
  | .list items => "(" ++ commaList (renderAll d items) ++ ")"
  | .function name args distinct =>
    name ++ "(" ++ (if distinct then "DISTINCT " else "") ++ commaList (renderAll d args) ++ ")"
  | .binary l op r =>
    parensIf (needsParens op .left l) (render d l) ++ " " ++ op.token ++ " " ++
      parensIf (needsParens op .right r) (render d r)
  | .unary .not e => "NOT(" ++ render d e ++ ")"
  | .unary .neg e => "-(" ++ render d e ++ ")"
  | .isNull e => "((" ++ render d e ++ ") IS NULL)"
  | .between e low high =>
    parensIf (comparisonNeedsParens e) (render d e) ++ " BETWEEN " ++
      parensIf (comparisonNeedsParens low) (render d low) ++ " AND " ++
      parensIf (comparisonNeedsParens high) (render d high)
  | .elemOf e items =>
    parensIf (comparisonNeedsParens e) (render d e) ++ " IN " ++ render d items
  | .caseWhen branches otherwise =>
    "CASE" ++ String.join (renderBranches d branches) ++ renderElse d otherwise ++ " END"
  | .cast e type => "CAST(" ++ render d e ++ " AS " ++ type ++ ")"
  | .window fn partition order frame =>
    render d fn ++ " OVER (" ++ overText (renderAll d partition) (renderAll d order) frame ++ ")"
  | .withinGroup fn order =>
    render d fn ++ " WITHIN GROUP (ORDER BY " ++ commaList (renderAll d order) ++ ")"
  | .desc e => render d e ++ " DESC"
  | .raw text => text

def renderAll (d : Dialect) : List Expr → List String
  | [] => []
  | e :: rest => render d e :: renderAll d rest

def renderBranches (d : Dialect) : List (Expr × Expr) → List String
  | [] => []
  | (cond, value) :: rest =>
    (" WHEN (" ++ render d cond ++ ") THEN (" ++ render d value ++ ")") :: renderBranches d rest

def renderElse (d : Dialect) : Option Expr → String
  | none => ""
  | some e => " ELSE (" ++ render d e ++ ")"

end

end Expr

end SqlVerbs.Sql
