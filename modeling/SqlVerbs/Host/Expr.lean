import SqlVerbs.Bindings
import SqlVerbs.Host.Literal

/-!
# Host expressions

The tree of an expression of the host language: constants, symbols and calls. Operators are calls
too. The arguments of a call are positional or named.
-/

namespace SqlVerbs.Host

/-- An expression of the host language. -/
inductive Expr where
  | literal (value : Literal)
  | vector (items : List Literal)
  | symbol (name : String)
  | call (name : String) (args : List Expr) (named : List (String × Expr))
deriving Inhabited

namespace Expr

/-- What an expression is at the top. -/
def shape : Expr → String
  | .literal _ => "literal"
  | .vector _ => "vector"
  | .symbol _ => "symbol"
  | .call .. => "call"

def symbolName? : Expr → Option String
  | .symbol name => some name
  | _ => none

def literal? : Expr → Option Literal
  | .literal value => some value
  | _ => none

/-- Is the expression a call to this function? -/
def isCallTo (function : String) : Expr → Bool
  | .call name _ _ => name = function
  | _ => false

mutual

/-- The symbols of the tree in visiting order, positional arguments first, with repetitions. -/
def references : Expr → List String
  | .symbol name => [name]
  | .call _ args named => referencesAll args ++ referencesNamed named
  | _ => []

def referencesAll : List Expr → List String
  | [] => []
  | e :: rest => references e ++ referencesAll rest

def referencesNamed : List (String × Expr) → List String
  | [] => []
  | (_, e) :: rest => references e ++ referencesNamed rest

end

/-- Every symbol of the tree once, in the order of code points. -/
def symbols (e : Expr) : List String :=
  (dedup (references e)).mergeSort (fun a b => decide (a ≤ b))

mutual

/-- Replaces the symbols for which there is a replacement. Replacements are not searched again. -/
def substitute (f : String → Option Expr) : Expr → Expr
  | .symbol name => (f name).getD (.symbol name)
  | .call name args named => .call name (substituteAll f args) (substituteNamed f named)
  | .literal value => .literal value
  | .vector items => .vector items

def substituteAll (f : String → Option Expr) : List Expr → List Expr
  | [] => []
  | e :: rest => substitute f e :: substituteAll f rest

def substituteNamed (f : String → Option Expr) : List (String × Expr) → List (String × Expr)
  | [] => []
  | (key, e) :: rest => (key, substitute f e) :: substituteNamed f rest

end

end Expr

end SqlVerbs.Host
