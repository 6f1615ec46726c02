import SqlVerbs.Dialect.Arity
import SqlVerbs.Local.Reason

/-!
# Errors and warnings

Everything that stops a query on its way to SQL, and everything worth telling next to its result.
The wording of both is here and nowhere else.
-/

namespace SqlVerbs

/-- What stops an expression or a query on its way to SQL. -/
inductive Error where
  /-- No rule of the function takes this many arguments. -/
  | arityMismatch (function : String) (expected : List Arity) (actual : Nat)
  /-- A function without a rule, in strict mode. -/
  | unknownFunction (name : String)
  /-- An expression that had to be evaluated locally, and why that failed. -/
  | localFailure (expression : String) (reason : Local.Reason)
  | unsupported (dialect feature : String)
  | invalidArgument (function : String) (index : Nat) (reason : String)
  /-- A function without a rule whose name is no SQL function name. -/
  | invalidFunctionName (name : String)
  | unknownColumn (name : String)
  | unknownDialect (name : String)
  /-- A setting that cannot be used. -/
  | badSetting (reason : String)
  /-- A settings text that is no settings document. -/
  | malformedSettings
  | io (reason : String)
  /-- The backend refused a statement. -/
  | executor (reason : String)
  /-- An ordering term that is ordered by the ordering it belongs to. -/
  | circularOrdering
deriving DecidableEq, Repr

namespace Error

def message : Error → String
  | .arityMismatch function expected actual =>
    function ++ "() expects " ++ " or ".intercalate (expected.map Arity.text) ++
      " argument(s), got " ++ toString actual
  | .unknownFunction name => "Unknown function " ++ name ++ "() (strict mode disables passthrough)"
  | .localFailure expression reason =>
    "Failed to evaluate `" ++ expression ++ "` locally: " ++ reason.message
  | .unsupported dialect feature =>
    "The " ++ dialect ++ " dialect does not support " ++ feature
  | .invalidArgument function index reason =>
    function ++ "(): argument " ++ toString index ++ " " ++ reason
  | .invalidFunctionName name => "'" ++ name ++ "' cannot be passed through as a SQL function name"
  | .unknownColumn name => "Column `" ++ name ++ "` does not exist"
  | .unknownDialect name => "Unknown dialect '" ++ name ++ "'"
  | .badSetting reason => "Configuration error: " ++ reason
  | .malformedSettings => "Configuration file error"
  | .io reason => "IO error: " ++ reason
  | .executor reason => "Executor failed: " ++ reason
  | .circularOrdering => "An ordering term depends on its own ordering"

end Error

/-- A finding that does not stop anything. -/
inductive Warning where
  /-- A named argument that the rule of the function does not know. -/
  | namedArgumentIgnored (function argument : String)
  /-- A window function whose result depends on an order that nobody gave. -/
  | missingWindowOrder (expression : String)
deriving DecidableEq, Repr

namespace Warning

def message : Warning → String
  | .namedArgumentIgnored function argument =>
    "Named argument `" ++ argument ++ "` of " ++ function ++ "() is ignored in SQL"
  | .missingWindowOrder expression =>
    "Windowed expression `" ++ expression ++ "` has no explicit order; " ++
      "results depend on the backend's default ordering"

end Warning

end SqlVerbs
