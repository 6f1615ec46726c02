import SqlVerbs.Bindings
import SqlVerbs.Sql.Select

/-!
# Statements under construction

A level is one `SELECT` to which verbs are still added. Its columns are defined over the columns
of its `FROM` clause.
-/

namespace SqlVerbs

/-- The unqualified column that a definition passes on, if it does nothing else. -/
def Sql.Expr.passedColumn? : Sql.Expr → Option String
  | .identifier none name => some name
  | _ => none

/-- One `SELECT` under construction. -/
structure Level where
  /-- Everything but output columns and order. -/
  body : Sql.Select
  /-- The columns that the `FROM` clause offers. -/
  sourceColumns : List String
  /-- The visible columns with their definitions. -/
  columns : Bindings Sql.Expr
  /-- The rows are groups. -/
  summarised : Bool := false
  /-- The next verb has to start another level. -/
  closed : Bool := false

namespace Level

/-- All columns of a source, as they are. -/
def ofSource (source : Sql.Source) (columns : List String) : Level where
  body := { source := source }
  sourceColumns := columns
  columns := Bindings.ofPairs (columns.map (fun name => (name, Sql.Expr.column name)))

def names (level : Level) : List String := level.columns.names

def has (level : Level) (name : String) : Bool := level.columns.has name

/-- Is the column defined by more than a column of the source? -/
def isComputed (level : Level) (name : String) : Bool :=
  match level.columns.get? name with
  | some definition => definition.passedColumn?.isNone
  | none => false

def hasWindows (level : Level) : Bool := level.columns.values.any Sql.Expr.isWindowed

/-- Does an expression over the visible columns use a computed one? -/
def usesComputed (level : Level) (e : Sql.Expr) : Bool := e.columnReferences.any level.isComputed

/-- The definition of a column that an expression may be given in place of its name. Computed
columns are kept as names unless `computed` is set. -/
def definition? (level : Level) (computed : Bool) (name : String) : Option Sql.Expr :=
  (level.columns.get? name).filter (fun e => computed || e.passedColumn?.isSome)

/-- An expression over the visible columns as one over the columns of the source. -/
def resolve (level : Level) (computed : Bool) (e : Sql.Expr) : Sql.Expr :=
  e.inline (level.definition? computed)

def setColumn (level : Level) (name : String) (definition : Sql.Expr) : Level :=
  { level with columns := level.columns.insert name definition }

def addFilter (level : Level) (condition : Sql.Expr) : Level :=
  { level with body := { level.body with filters := level.body.filters ++ [condition] } }

def addHaving (level : Level) (condition : Sql.Expr) : Level :=
  { level with body := { level.body with having := level.body.having ++ [condition] } }

/-- Is this entry a column of the source under its own name? -/
def passesOn (entry : String × Sql.Expr) (source : String) : Bool :=
  entry.1 = source && entry.2.passedColumn? = some source

/-- Are the visible columns exactly those of the source? -/
def isStar (level : Level) : Bool :=
  level.columns.length = level.sourceColumns.length &&
    (List.zipWith passesOn level.columns level.sourceColumns).all id

def selectList (level : Level) : Sql.SelectList :=
  if level.isStar then .star
  else .columns (level.columns.map (fun entry => .named entry.2 entry.1))

/-- The finished statement. -/
def toSelect (level : Level) (order : List Sql.Expr) : Sql.Select :=
  { level.body with items := level.selectList, order := order }

/-- Does the level read its source unchanged? -/
def isUntouched (level : Level) : Bool :=
  level.body.joins.isEmpty && level.body.filters.isEmpty && level.body.groups.isEmpty &&
    level.body.having.isEmpty && !level.body.distinct && level.body.limit.isNone && level.isStar

/-- The table that the level reads, if it does nothing else. -/
def bareTable? (level : Level) : Option Sql.TableName :=
  match level.body.source with
  | .table name none => if level.isUntouched then some name else none
  | _ => none

end Level

end SqlVerbs
