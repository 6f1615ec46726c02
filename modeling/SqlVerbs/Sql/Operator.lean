/-!
# SQL operators

Tokens of the operators, how tightly they bind, and which chains of them may be regrouped.
-/

namespace SqlVerbs.Sql

inductive BinaryOp where
  | add
  | sub
  | mul
  | div
  | mod
  | concat
  | eq
  | ne
  | lt
  | le
  | gt
  | ge
  | and
  | or
  | like
  /-- An operator of one backend only. -/
  | custom (token : String)
deriving DecidableEq, Repr

inductive UnaryOp where
  | not
  | neg
deriving DecidableEq, Repr

/-- How a chain of one operator may be grouped. -/
inductive Associativity where
  | left
  | both
  | neither
deriving DecidableEq, Repr

/-- Binding strengths, from loosest to tightest. -/
inductive Strength where
  | disjunction
  | conjunction
  | negation
  | comparison
  | concatenation
  | additive
  | multiplicative
  | sign
  | atom
deriving DecidableEq, Repr

/-- The place of a strength in the order. -/
def Strength.rank : Strength → Nat
  | .disjunction => 0
  | .conjunction => 1
  | .negation => 2
  | .comparison => 3
  | .concatenation => 4
  | .additive => 5
  | .multiplicative => 6
  | .sign => 7
  | .atom => 8

namespace BinaryOp

def token : BinaryOp → String
  | .add => "+"
  | .sub => "-"
  | .mul => "*"
  | .div => "/"
  | .mod => "%"
  | .concat => "||"
  | .eq => "="
  | .ne => "!="
  | .lt => "<"
  | .le => "<="
  | .gt => ">"
  | .ge => ">="
  | .and => "AND"
  | .or => "OR"
  | .like => "LIKE"
  | .custom token => token

def strength : BinaryOp → Strength
  | .or => .disjunction
  | .and => .conjunction
  | .eq | .ne | .lt | .le | .gt | .ge | .like | .custom _ => .comparison
  | .concat => .concatenation
  | .add | .sub => .additive
  | .mul | .div | .mod => .multiplicative

def associativity : BinaryOp → Associativity
  | .add | .mul | .and | .or | .concat => .both
  | .sub | .div | .mod => .left
  | _ => .neither

end BinaryOp

end SqlVerbs.Sql
