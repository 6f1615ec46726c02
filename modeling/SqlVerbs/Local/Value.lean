import SqlVerbs.Calendar.Date
import SqlVerbs.Host.Expr
import SqlVerbs.Local.Reason

/-!
# Local values

What a name may be bound to on this side of the connection: vectors of literals, lists, dates and
`NULL`. A scalar is a vector of length one.
-/

namespace SqlVerbs.Local

open Calendar (Date DateTime)

/-- A local value. -/
inductive Value where
  | atomic (items : List Literal)
  | list (entries : List (String × Value))
  | date (d : Date)
  | dateTime (t : DateTime)
  | null
deriving Inhabited

namespace Value

/-- A vector of length one, or `NULL`. -/
def ofLiteral : Literal → Value
  | .null => .null
  | l => .atomic [l]

def length : Value → Nat
  | .atomic items => items.length
  | .list entries => entries.length
  | .date _ | .dateTime _ => 1
  | .null => 0

/-- The text of a date as a literal. -/
def dateLiteral (d : Date) : Literal := .string (some d.text)

/-- The text of a date and time as a literal. -/
def dateTimeLiteral (t : DateTime) : Literal := .string (some t.text)

/-- The constant that stands for the value in an expression. Dates become strings; a list has no
constant. -/
def toExpr : Value → Except Reason Host.Expr
  | .atomic [single] => .ok (.literal single)
  | .atomic items => .ok (.vector items)
  | .date d => .ok (.literal (dateLiteral d))
  | .dateTime t => .ok (.literal (dateTimeLiteral t))
  | .null => .ok (.literal .null)
  | .list _ => .error .listInSql

/-- The elements of a value other than a list. -/
def literals : Value → Except Reason (List Literal)
  | .atomic items => .ok items
  | .null => .ok []
  | .date d => .ok [dateLiteral d]
  | .dateTime t => .ok [dateTimeLiteral t]
  | .list _ => .error .listInFunction

end Value

/-- The kind of highest rank among the elements; nothing counts as logical. -/
def kindOf : List Literal → Kind
  | [] => .logical
  | first :: rest => rest.foldl (fun acc l => acc.join l.kind) first.kind

/-- The local bindings of an expression. -/
abbrev Environment := Bindings Value

end SqlVerbs.Local
