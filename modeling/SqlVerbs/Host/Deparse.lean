import SqlVerbs.Host.Expr

/-!
# Host expressions as text

Operators are written between their operands, subsetting with brackets, everything else as a
function call. An operand that is itself an operator stands in parentheses, so no table of
precedences is needed to read the text.
-/

namespace SqlVerbs.Host

/-- Binary operators, written with blanks around them. -/
def spacedOperators : List String :=
  ["+", "-", "*", "/", "^", "%%", "%/%", "%in%", "==", "!=", "<", "<=", ">", ">=", "&", "&&",
    "|", "||", "~"]

/-- Binary operators written without blanks. -/
def tightOperators : List String := ["$", "::", ":::", ":"]

/-- A letter or a dot, then letters, digits, dots and underscores. -/
def isSyntactic (name : String) : Bool :=
  match name.toList with
  | [] => false
  | first :: rest =>
    (first.isAlpha || first = '.') && rest.all (fun c => c.isAlphanum || c = '.' || c = '_')

/-- A name, in backticks unless it is syntactic. -/
def nameText (name : String) : String := if isSyntactic name then name else "`" ++ name ++ "`"

/-- The text of an argument, and whether it needs parentheses next to an operator. -/
structure Operand where
  text : String
  isOperator : Bool

namespace Operand

/-- The text next to an operator. -/
def guarded (o : Operand) : String := if o.isOperator then "(" ++ o.text ++ ")" else o.text

end Operand

/-- Does the expression need parentheses next to an operator? -/
def Expr.isOperatorCall : Expr → Bool
  | .call name _ named =>
    named.isEmpty && (spacedOperators.contains name || name = "!" || name = "-")
  | _ => false

/-- The text of a call as a function with its arguments in parentheses. -/
def prefixCallText (name : String) (args : List Operand) (named : List (String × String)) :
    String :=
  nameText name ++ "(" ++
    ", ".intercalate (args.map Operand.text ++ named.map (fun entry => entry.1 ++ " = " ++ entry.2))
    ++ ")"

/-- The text of a call from the texts of its arguments. -/
def callText (name : String) (args : List Operand) (named : List (String × String)) : String :=
  match args with
  | [l, r] =>
    -- Only here and after a prefix operator do operands get parentheses.
    if named.isEmpty && spacedOperators.contains name then
      l.guarded ++ " " ++ name ++ " " ++ r.guarded
    else if named.isEmpty && tightOperators.contains name then l.text ++ name ++ r.text
    else if name = "[" then l.text ++ "[" ++ r.text ++ "]"
    else if name = "[[" then l.text ++ "[[" ++ r.text ++ "]]"
    else prefixCallText name args named
  | [x] =>
    if name = "(" then "(" ++ x.text ++ ")"
    else if named.isEmpty && (name = "-" || name = "+" || name = "!") then name ++ x.guarded
    else prefixCallText name args named
  | _ => prefixCallText name args named

namespace Expr

mutual

/-- The expression as the host language writes it. -/
def deparse : Expr → String
  | .literal value => value.deparse
  | .vector items => "c(" ++ ", ".intercalate (items.map Literal.deparse) ++ ")"
  | .symbol name => nameText name
  | .call name args named => callText name (deparseArgs args) (deparseNamed named)

def deparseArgs : List Expr → List Operand
  | [] => []
  | e :: rest => ⟨deparse e, e.isOperatorCall⟩ :: deparseArgs rest

def deparseNamed : List (String × Expr) → List (String × String)
  | [] => []
  | (key, e) :: rest => (key, deparse e) :: deparseNamed rest

end

end Expr

end SqlVerbs.Host
