import SqlVerbs.Dialect.Arity
import SqlVerbs.Sql.Operator

/-!
# Rules for functions

What a function of the host language becomes in SQL. A rule names one of a fixed set of shapes; how
each shape is built is the same everywhere, and which one a function has is the dialect's choice.
-/

namespace SqlVerbs

/-- Where a logarithm with two arguments has its base. -/
inductive LogStyle where
  | baseFirst
  | baseLast
  /-- A quotient of natural logarithms. -/
  | quotient
deriving DecidableEq, Repr

/-- How strings are joined. -/
inductive ConcatStyle where
  | operator
  | concatWs
deriving DecidableEq, Repr

/-- Target kinds of casts. -/
inductive CastTo where
  | integer
  | double
  | character
  | logical
  | date
deriving DecidableEq, Repr

/-- What a function call becomes. -/
inductive RuleKind where
  | infixOp (op : Sql.BinaryOp)
  | not
  | negate
  | identity
  | scalar (function : String)
  | aggregate (function : String)
  | countAll
  | countDistinct
  | median
  | cumulative (function : String)
  | cumulativeProduct
  | ranking (function : String)
  | ntile
  | offset (function : String)
  | positional (function : String)
  | cast (type : CastTo)
  | conditional
  | caseWhen
  | between
  | elemOf
  | isNull
  | modulo
  | integerDivide
  | power
  | logBase (style : LogStyle)
  | regex (token : String)
  | combine
  | desc
  | raw
  | substr (function : String)
  | round
  | paste (separator : String) (style : ConcatStyle)
  | unsupported (feature : String)
deriving DecidableEq, Repr

namespace RuleKind

/-- Kinds that make sense only over a set of rows. -/
def isAggregate : RuleKind → Bool
  | .aggregate _ | .countAll | .countDistinct | .median => true
  | _ => false

/-- Kinds that always have an `OVER` clause. -/
def isWindow : RuleKind → Bool
  | .cumulative _ | .cumulativeProduct | .ranking _ | .ntile | .offset _ | .positional _ => true
  | _ => false

end RuleKind

/-- One rule of a function. -/
structure Rule where
  kind : RuleKind
  arity : Arity
  /-- Names of the positional parameters, which arguments may be given by. -/
  params : List String := []
  /-- Parameters that are given by name only. -/
  keywords : List String := []
deriving DecidableEq, Repr

end SqlVerbs
