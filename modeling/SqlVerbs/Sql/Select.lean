import SqlVerbs.Sql.Expr

/-!
# SELECT statements

A statement reads from a table or from another statement, possibly joined with more of them.
-/

namespace SqlVerbs.Sql

/-- The name of a table, with the schema it is in. -/
structure TableName where
  schema : Option String
  name : String
deriving DecidableEq, Repr

/-- Splits a name at its first dot into schema and table. -/
def TableName.ofText (text : String) : TableName :=
  let chars := text.toList
  match chars.dropWhile (· ≠ '.') with
  -- Further dots belong to the table.
  | _ :: table => ⟨some (String.ofList (chars.takeWhile (· ≠ '.'))), String.ofList table⟩
  | [] => ⟨none, text⟩

/-- An output column. -/
structure SelectItem where
  expr : Expr
  label : Option String

namespace SelectItem

/-- A column under its own name. -/
def column (name : String) : SelectItem := ⟨.column name, none⟩

/-- An expression under a name, which is left out if it is the expression's own. -/
def named (expr : Expr) (label : String) : SelectItem :=
  match expr with
  | .identifier _ name => if name = label then ⟨expr, none⟩ else ⟨expr, some label⟩
  | _ => ⟨expr, some label⟩

/-- The name of the output column, if it has one. -/
def outputName? (item : SelectItem) : Option String :=
  match item.label, item.expr with
  | some label, _ => some label
  | none, .identifier _ name => some name
  | none, _ => none

end SelectItem

/-- The output columns: all there are, or a list. -/
inductive SelectList where
  | star
  | columns (items : List SelectItem)

inductive JoinKind where
  | inner
  | left
  | right
  | full
deriving DecidableEq, Repr

def JoinKind.text : JoinKind → String
  | .inner => "INNER JOIN"
  | .left => "LEFT JOIN"
  | .right => "RIGHT JOIN"
  | .full => "FULL JOIN"

/-- A join with a source of rows; no condition means the cross product. -/
structure JoinWith (σ : Type) where
  kind : JoinKind
  source : σ
  on : List Expr

/-- A statement over sources of rows. -/
structure SelectFrom (σ : Type) where
  distinct : Bool := false
  items : SelectList := .star
  source : σ
  joins : List (JoinWith σ) := []
  filters : List Expr := []
  groups : List Expr := []
  having : List Expr := []
  order : List Expr := []
  limit : Option UInt64 := none

/-- What a statement reads from. -/
inductive Source where
  | table (name : TableName) (label : Option String)
  | subquery (select : SelectFrom Source) (label : String)

abbrev Select := SelectFrom Source

abbrev Join := JoinWith Source

end SqlVerbs.Sql
