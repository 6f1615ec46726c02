import SqlVerbs.Dialect.Basic

/-!
# Rules of standard SQL

The table that every dialect starts from.
-/

namespace SqlVerbs

namespace Rule

/-- A rule for one argument, the parameter `x`. -/
def ofValue (kind : RuleKind) : Rule := ⟨kind, .exact 1, ["x"], []⟩

/-- A rule for two operands without parameter names. -/
def ofPair (kind : RuleKind) : Rule := ⟨kind, .exact 2, [], []⟩

end Rule

namespace StandardRules

open Rule (ofValue ofPair)

/-- Operators and parentheses. -/
def operatorRules : Bindings (List Rule) :=
  [("+", [ofPair (.infixOp .add), ⟨.identity, .exact 1, [], []⟩]),
    ("-", [ofPair (.infixOp .sub), ⟨.negate, .exact 1, [], []⟩]),
    ("*", [ofPair (.infixOp .mul)]),
    ("/", [ofPair (.infixOp .div)]),
    ("%%", [ofPair .modulo]),
    ("%/%", [ofPair .integerDivide]),
    ("^", [ofPair .power]),
    ("(", [⟨.identity, .exact 1, [], []⟩]),
    ("identity", [ofValue .identity]),
    ("==", [ofPair (.infixOp .eq)]),
    ("!=", [ofPair (.infixOp .ne)]),
    ("<", [ofPair (.infixOp .lt)]),
    ("<=", [ofPair (.infixOp .le)]),
    (">", [ofPair (.infixOp .gt)]),
    (">=", [ofPair (.infixOp .ge)]),
    ("&", [ofPair (.infixOp .and)]),
    ("&&", [ofPair (.infixOp .and)]),
    ("|", [ofPair (.infixOp .or)]),
    ("||", [ofPair (.infixOp .or)]),
    ("!", [⟨.not, .exact 1, [], []⟩]),
    ("%in%", [ofPair .elemOf]),
    ("%like%", [ofPair (.infixOp .like)]),
    ("is.na", [ofValue .isNull]),
    ("is.null", [ofValue .isNull]),
    ("between", [⟨.between, .exact 3, ["x", "left", "right"], []⟩]),
    ("c", [⟨.combine, .atLeast 0, [], []⟩]),
    ("desc", [ofValue .desc]),
    ("sql", [⟨.raw, .exact 1, [], []⟩])]

def conditionalRules : Bindings (List Rule) :=
  [("if", [⟨.conditional, .between 2 3, ["cond", "yes", "no"], []⟩]),
    ("ifelse", [⟨.conditional, .between 2 3, ["test", "yes", "no"], []⟩]),
    ("if_else", [⟨.conditional, .between 2 3, ["condition", "true", "false"], []⟩]),
    ("case_when", [⟨.caseWhen, .atLeast 1, [], [".default"]⟩]),
    ("coalesce", [⟨.scalar "COALESCE", .atLeast 1, [], []⟩]),
    ("pmin", [⟨.scalar "MIN", .atLeast 1, [], []⟩]),
    ("pmax", [⟨.scalar "MAX", .atLeast 1, [], []⟩])]

def castRules : Bindings (List Rule) :=
  [("as.integer", [ofValue (.cast .integer)]),
    ("as.numeric", [ofValue (.cast .double)]),
    ("as.double", [ofValue (.cast .double)]),
    ("as.character", [ofValue (.cast .character)]),
    ("as.logical", [ofValue (.cast .logical)]),
    ("as.Date", [ofValue (.cast .date)])]

def mathRules : Bindings (List Rule) :=
  [("abs", [ofValue (.scalar "ABS")]),
    ("sqrt", [ofValue (.scalar "SQRT")]),
    ("exp", [ofValue (.scalar "EXP")]),
    ("floor", [ofValue (.scalar "FLOOR")]),
    ("ceiling", [ofValue (.scalar "CEIL")]),
    ("sign", [ofValue (.scalar "SIGN")]),
    ("sin", [ofValue (.scalar "SIN")]),
    ("cos", [ofValue (.scalar "COS")]),
    ("tan", [ofValue (.scalar "TAN")]),
    ("asin", [ofValue (.scalar "ASIN")]),
    ("acos", [ofValue (.scalar "ACOS")]),
    ("atan", [ofValue (.scalar "ATAN")]),
    ("atan2", [⟨.scalar "ATAN2", .exact 2, ["y", "x"], []⟩]),
    ("log", [⟨.scalar "LN", .exact 1, ["x", "base"], []⟩,
      ⟨.logBase .baseFirst, .exact 2, ["x", "base"], []⟩]),
    ("log10", [ofValue (.scalar "LOG10")]),
    ("round", [⟨.round, .between 1 2, ["x", "digits"], []⟩])]

def stringRules : Bindings (List Rule) :=
  [("nchar", [ofValue (.scalar "LENGTH")]),
    ("toupper", [ofValue (.scalar "UPPER")]),
    ("tolower", [ofValue (.scalar "LOWER")]),
    ("trimws", [ofValue (.scalar "TRIM")]),
    ("substr", [⟨.substr "SUBSTR", .exact 3, ["x", "start", "stop"], []⟩]),
    ("paste", [⟨.paste " " .operator, .atLeast 1, [], ["sep"]⟩]),
    ("paste0", [⟨.paste "" .operator, .atLeast 1, [], []⟩]),
    ("grepl", [⟨.unsupported "regular expression matching", .exact 2, ["pattern", "x"], []⟩])]

/-- Functions over a set of rows. -/
def aggregateRules : Bindings (List Rule) :=
  [("mean", [ofValue (.aggregate "AVG")]),
    ("sum", [ofValue (.aggregate "SUM")]),
    ("min", [ofValue (.aggregate "MIN")]),
    ("max", [ofValue (.aggregate "MAX")]),
    ("sd", [ofValue (.aggregate "STDDEV_SAMP")]),
    ("var", [ofValue (.aggregate "VAR_SAMP")]),
    ("count", [ofValue (.aggregate "COUNT")]),
    ("all", [ofValue (.aggregate "MIN")]),
    ("any", [ofValue (.aggregate "MAX")]),
    ("median", [ofValue .median]),
    ("n", [⟨.countAll, .exact 0, [], []⟩]),
    ("n_distinct", [ofValue .countDistinct])]

/-- Functions over a window. -/
def windowRules : Bindings (List Rule) :=
  [("cumsum", [ofValue (.cumulative "SUM")]),
    ("cummean", [ofValue (.cumulative "AVG")]),
    ("cummin", [ofValue (.cumulative "MIN")]),
    ("cummax", [ofValue (.cumulative "MAX")]),
    ("cumall", [ofValue (.cumulative "MIN")]),
    ("cumany", [ofValue (.cumulative "MAX")]),
    ("cumprod", [ofValue .cumulativeProduct]),
    ("row_number", [⟨.ranking "ROW_NUMBER", .between 0 1, ["x"], []⟩]),
    ("min_rank", [⟨.ranking "RANK", .between 0 1, ["x"], []⟩]),
    ("rank", [⟨.ranking "RANK", .between 0 1, ["x"], []⟩]),
    ("dense_rank", [⟨.ranking "DENSE_RANK", .between 0 1, ["x"], []⟩]),
    ("percent_rank", [⟨.ranking "PERCENT_RANK", .between 0 1, ["x"], []⟩]),
    ("cume_dist", [⟨.ranking "CUME_DIST", .between 0 1, ["x"], []⟩]),
    ("ntile", [⟨.ntile, .between 1 2, ["x", "n"], []⟩]),
    ("lead", [⟨.offset "LEAD", .between 1 3, ["x", "n", "default"], ["order_by"]⟩]),
    ("lag", [⟨.offset "LAG", .between 1 3, ["x", "n", "default"], ["order_by"]⟩]),
    ("first", [⟨.positional "FIRST_VALUE", .exact 1, ["x"], ["order_by"]⟩]),
    ("last", [⟨.positional "LAST_VALUE", .exact 1, ["x"], ["order_by"]⟩]),
    ("nth", [⟨.positional "NTH_VALUE", .exact 2, ["x", "n"], ["order_by"]⟩])]

/-- All rules of standard SQL. -/
def table : Bindings (List Rule) :=
  operatorRules ++ conditionalRules ++ castRules ++ mathRules ++ stringRules ++ aggregateRules ++
    windowRules

end StandardRules

end SqlVerbs
