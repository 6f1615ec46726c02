import SqlVerbs.Sql.Printer
import SqlVerbs.Sql.Select

/-!
# Printing SELECT statements

One clause a line. A nested statement is indented by two blanks a level.
-/

namespace SqlVerbs.Sql

/-- Conditions in parentheses, all of which have to hold. -/
def predicatesText (d : Dialect) (conditions : List Expr) : String :=
  " AND ".intercalate (conditions.map (fun e => "(" ++ e.render d ++ ")"))

/-- A clause on a line of its own, unless it is empty. -/
def clauseText (word : String) (items : List Expr) (text : List Expr → String) : String :=
  if items.isEmpty then "" else "\n" ++ word ++ " " ++ text items

/-- Expressions with commas between them. -/
def listText (d : Dialect) (items : List Expr) : String := commaList (items.map (Expr.render d))

def labelText (d : Dialect) : Option String → String
  | some label => " AS " ++ d.quoteIdentifier label
  | none => ""

def SelectItem.render (d : Dialect) (item : SelectItem) : String :=
  item.expr.render d ++ labelText d item.label

def SelectList.render (d : Dialect) : SelectList → String
  | .star => "*"
  | .columns items => commaList (items.map (SelectItem.render d))

/-- A table with its schema. -/
def TableName.render (d : Dialect) (table : TableName) : String :=
  (match table.schema with
    | some schema => d.quoteIdentifier schema ++ "."
    | none => "") ++ d.quoteIdentifier table.name

/-- The row limit after `SELECT`. -/
def topText (d : Dialect) (limit : Option UInt64) : String :=
  match d.limitStyle, limit with
  | .top, some n => "TOP " ++ toString n.toNat ++ " "
  | _, _ => ""

/-- The row limit at the end. -/
def limitText (d : Dialect) (limit : Option UInt64) : String :=
  match d.limitStyle, limit with
  | .limit, some n => "\nLIMIT " ++ toString n.toNat
  | _, _ => ""

/-- A join from the text of its source. -/
def joinText (d : Dialect) (kind : JoinKind) (source : String) (on : List Expr) : String :=
  "\n" ++ kind.text ++ " " ++ source ++ "\n  ON " ++
    -- A join needs a condition, also without keys.
    (if on.isEmpty then "(1 = 1)" else predicatesText d on)

/-- A statement from the texts of its sources. -/
def selectText (d : Dialect) (select : Select) (source joins : String) : String :=
  "SELECT " ++ (if select.distinct then "DISTINCT " else "") ++ topText d select.limit ++
    select.items.render d ++ "\nFROM " ++ source ++ joins ++
    clauseText "WHERE" select.filters (predicatesText d) ++
    clauseText "GROUP BY" select.groups (listText d) ++
    clauseText "HAVING" select.having (predicatesText d) ++
    clauseText "ORDER BY" select.order (listText d) ++ limitText d select.limit

/-- A nested statement from its text. -/
def subqueryText (d : Dialect) (inner label : String) : String :=
  "(\n" ++ Text.indent inner ++ "\n) AS " ++ d.quoteIdentifier label

mutual

/-- A source of rows as SQL text. -/
def Source.render (d : Dialect) : Source → String
  | .table name label => name.render d ++ labelText d label
  | .subquery select label => subqueryText d (renderSelect d select) label

def renderSelect (d : Dialect) : SelectFrom Source → String
  | ⟨distinct, items, source, joins, filters, groups, having, order, limit⟩ =>
    selectText d ⟨distinct, items, source, joins, filters, groups, having, order, limit⟩
      (source.render d) (String.join (renderJoins d joins))

def renderJoins (d : Dialect) : List (JoinWith Source) → List String
  | [] => []
  | ⟨kind, source, on⟩ :: rest => joinText d kind (source.render d) on :: renderJoins d rest

end

/-- The statement as SQL text of a dialect. -/
def SelectFrom.render (d : Dialect) (select : Select) : String := renderSelect d select

end SqlVerbs.Sql
