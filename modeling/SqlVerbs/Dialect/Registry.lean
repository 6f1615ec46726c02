import SqlVerbs.Dialect.StandardRules

/-!
# The dialects

Standard SQL, and five backends that differ from it in quoting, types and some rules.
-/

namespace SqlVerbs.Dialect

open Rule (ofValue)

/-- Standard SQL. -/
def ansi : Dialect where
  name := "ansi"
  identifierOpen := '"'
  identifierClose := '"'
  stringQuote := '\''
  escapesBackslash := false
  supportsWindows := true
  moduloFunction := some "MOD"
  limitStyle := .limit
  explainWord := some "EXPLAIN "
  tempTable := .createAs
  castTypes := ⟨"INTEGER", "DOUBLE PRECISION", "VARCHAR", "BOOLEAN", "DATE"⟩
  rules := StandardRules.table

/-- Scalar minimum and maximum under the names `LEAST` and `GREATEST`. -/
def withLeastGreatest (d : Dialect) : Dialect :=
  (d.withRules "pmin" [⟨.scalar "LEAST", .atLeast 1, [], []⟩]).withRules
    "pmax" [⟨.scalar "GREATEST", .atLeast 1, [], []⟩]

/-- Strings joined by `CONCAT_WS`. -/
def withConcatWs (d : Dialect) : Dialect :=
  (d.withRules "paste" [⟨.paste " " .concatWs, .atLeast 1, [], ["sep"]⟩]).withRules
    "paste0" [⟨.paste "" .concatWs, .atLeast 1, [], []⟩]

/-- Pattern matching by an operator. -/
def withRegex (d : Dialect) (token : String) : Dialect :=
  d.withRules "grepl" [⟨.regex token, .exact 2, ["pattern", "x"], []⟩]

/-- Functions of one argument under other SQL names. -/
def withValueRules (d : Dialect) (rules : List (String × RuleKind)) : Dialect :=
  rules.foldl (fun acc entry => acc.withRules entry.1 [ofValue entry.2]) d

/-- A logarithm that is called by `natural` for one argument and has `style` for two. -/
def withLogarithm (d : Dialect) (natural : String) (style : LogStyle) : Dialect :=
  d.withRules "log"
    [⟨.scalar natural, .exact 1, ["x", "base"], []⟩, ⟨.logBase style, .exact 2, ["x", "base"], []⟩]

def postgres : Dialect :=
  let base : Dialect :=
    { ansi with
      name := "postgres"
      castTypes := ⟨"INTEGER", "DOUBLE PRECISION", "TEXT", "BOOLEAN", "DATE"⟩ }
  (base.withLeastGreatest.withRegex "~").withConcatWs.withValueRules
    [("all", .aggregate "BOOL_AND"), ("any", .aggregate "BOOL_OR"),
      ("cumall", .cumulative "BOOL_AND"), ("cumany", .cumulative "BOOL_OR")]

def sqlite : Dialect :=
  let base : Dialect :=
    { ansi with
      name := "sqlite"
      moduloFunction := none
      explainWord := some "EXPLAIN QUERY PLAN "
      castTypes := ⟨"INTEGER", "REAL", "TEXT", "INTEGER", "TEXT"⟩ }
  (base.withLogarithm "LN" .quotient).withValueRules
    [("sd", .unsupported "sd()"), ("var", .unsupported "var()"),
      ("median", .unsupported "median()")]

/-- Releases of SQLite without window functions. -/
def sqliteLegacy : Dialect := { sqlite with name := "sqlite_legacy", supportsWindows := false }

def mssql : Dialect :=
  let base : Dialect :=
    { ansi with
      name := "mssql"
      identifierOpen := '['
      identifierClose := ']'
      moduloFunction := none
      limitStyle := .top
      explainWord := none
      tempTable := .selectInto
      castTypes := ⟨"INT", "FLOAT", "VARCHAR(MAX)", "BIT", "DATE"⟩ }
  let joined := (base.withLogarithm "LOG" .baseLast).withLeastGreatest.withConcatWs
  let renamed := joined.withRules "atan2" [⟨.scalar "ATN2", .exact 2, ["y", "x"], []⟩]
  (renamed.withRules "substr"
    [⟨.substr "SUBSTRING", .exact 3, ["x", "start", "stop"], []⟩]).withValueRules
      [("nchar", .scalar "LEN"), ("ceiling", .scalar "CEILING"), ("sd", .aggregate "STDEV"),
        ("var", .aggregate "VAR"), ("median", .unsupported "median()")]

def mysql : Dialect :=
  let base : Dialect :=
    { ansi with
      name := "mysql"
      identifierOpen := '\x60'
      identifierClose := '\x60'
      escapesBackslash := true
      castTypes := ⟨"SIGNED INTEGER", "DOUBLE", "CHAR", "SIGNED INTEGER", "DATE"⟩ }
  (base.withLeastGreatest.withRegex "REGEXP").withConcatWs.withValueRules
    [("median", .unsupported "median()")]

/-- The built-in dialects. -/
def builtin : List Dialect := [ansi, postgres, sqlite, sqliteLegacy, mssql, mysql]

/-- Upper case letters of the Latin alphabet to lower case; all else is kept. -/
def lowerAscii (text : String) : String := String.ofList (text.toList.map Char.toLower)

/-- The dialect with a name, in any letter case. -/
def ofName (name : String) : Except Error Dialect :=
  match lowerAscii name with
  | "ansi" | "sql" => .ok ansi
  | "postgres" | "postgresql" => .ok postgres
  | "sqlite" => .ok sqlite
  | "sqlite_legacy" => .ok sqliteLegacy
  | "mssql" | "sqlserver" => .ok mssql
  | "mysql" | "mariadb" => .ok mysql
  | _ => .error (.unknownDialect name)

end SqlVerbs.Dialect
