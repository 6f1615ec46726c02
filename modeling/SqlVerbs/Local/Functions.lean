import SqlVerbs.Local.Dates
import SqlVerbs.Local.Strings
import SqlVerbs.Local.Vectors

/-!
# The local functions

The functions that can be evaluated on this side, by name and number of arguments.
-/

namespace SqlVerbs.Local

open Calendar (DateTime)

def callUnary (name : String) (x : Value) (named : Bindings Value) :
    Option (Except Reason Value) :=
  match name with
  | "(" | "identity" => some (.ok x)
  | "+" => some ((numeric x "unary operator").map .atomic)
  | "-" => some (negate x)
  | "!" => some (negation x)
  | "seq_len" => some (sequenceOfLength x)
  | "length" => some (.ok (.atomic [.integer (some (Int64.ofNat x.length))]))
  | "abs" => some (absolute x)
  | "sqrt" => some (mapDouble Float.sqrt x)
  | "exp" => some (mapDouble Float.exp x)
  | "floor" => some (mapDouble Double.floor x)
  | "ceiling" => some (mapDouble Double.ceil x)
  | "log10" => some (mapDouble Float.log10 x)
  | "log" =>
    some (match Bindings.get? named "base" with
      | some base => logarithm base x
      | none => mapDouble Float.log x)
  | "round" =>
    some (match Bindings.get? named "digits" with
      | some digits => do round x (← scalarDouble digits "digits")
      | none => round x 0.0)
  | "is.na" => some (.ok (isNa x))
  | "is.null" => some (.ok (.atomic [.logical (some (isNullValue x))]))
  | "as.integer" => some (castAll castInteger x)
  | "as.numeric" | "as.double" => some (castAll castDouble x)
  | "as.character" => some (castAll castString x)
  | "as.logical" => some (castAll castLogical x)
  | "toupper" => some (mapText (fun s => some (Text.upper s)) x)
  | "tolower" => some (mapText (fun s => some (Text.lower s)) x)
  | "nchar" => some (characterCount x)
  | "as.Date" => some (asDate x named)
  | _ => none

def callBinary (name : String) (x y : Value) (named : Bindings Value) :
    Option (Except Reason Value) :=
  match ArithOp.ofName? name, CompareOp.ofName? name with
  | some op, _ => some (arith op x y)
  | _, some op => some (compare op x y)
  | none, none =>
    match name with
    | "&" => some (logic and3 x y)
    | "|" => some (logic or3 x y)
    | "&&" => some (scalarLogic and3 x y)
    | "||" => some (scalarLogic or3 x y)
    | ":" => some (sequence x y)
    | "log" => some (logarithm y x)
    | "round" => some (do round x (← scalarDouble y "digits"))
    | "grepl" => some (matching x y named)
    | "if" => some (choose x y none)
    | _ => none

def callTernary (name : String) (x y z : Value) (named : Bindings Value) :
    Option (Except Reason Value) :=
  match name with
  | "substr" => some (substr x y z)
  | "sub" => some (replacing false x y z named)
  | "gsub" => some (replacing true x y z named)
  | "ifelse" | "if_else" => some (ifElse x y z)
  | "if" => some (choose x y (some z))
  | _ => none

/-- Joins strings with a separator that only `paste` lets one choose. -/
def pasteCall (name : String) (args : List Value) (named : Bindings Value) :
    Except Reason Value := do
  let separator ←
    if name = "paste" then
      match Bindings.get? named "sep" with
      | some s => scalarText s "sep"
      | none => pure " "
    else pure ""
  let collapse ← match Bindings.get? named "collapse" with
    | none | some .null => pure none
    | some c => do pure (some (← scalarText c "collapse"))
  paste args separator collapse

def callVariadic (name : String) (args : List Value) (named : Bindings Value) :
    Option (Except Reason Value) :=
  match name with
  | "c" => some (combine (args ++ Bindings.values named))
  | "paste" | "paste0" => some (pasteCall name args named)
  | _ => (AggregateOp.ofName? name).map (fun op => aggregate op args named)

/-- Functions without arguments, which read the clock. -/
def callNullary (now : DateTime) (name : String) : Option (Except Reason Value) :=
  match name with
  | "Sys.Date" => some (.ok (.date now.date))
  | "Sys.time" => some (.ok (.dateTime now))
  | _ => none

def localFunctions : List String :=
  ["(", "identity", "+", "-", "*", "/", "^", "%%", "%/%", "==", "!=", "<", "<=", ">", ">=",
    "!", "&", "|", "&&", "||", "c", ":", "seq_len", "length", "abs", "sqrt", "exp", "floor",
    "ceiling", "log", "log10", "round", "sum", "mean", "min", "max", "is.na", "is.null",
    "as.integer", "as.numeric", "as.double", "as.character", "as.logical", "paste", "paste0",
    "toupper", "tolower", "nchar", "substr", "grepl", "sub", "gsub", "Sys.Date", "Sys.time",
    "as.Date", "ifelse", "if_else", "if"]

/-- The entry of a function for a number of arguments. -/
def entry (now : DateTime) (name : String) (args : List Value) (named : Bindings Value) :
    Option (Except Reason Value) :=
  match args with
  | [] => callNullary now name
  | [x] => callUnary name x named
  | [x, y] => callBinary name x y named
  | [x, y, z] => callTernary name x y z named
  | _ => none

def callLocal (now : DateTime) (name : String) (args : List Value) (named : Bindings Value) :
    Except Reason Value :=
  match callVariadic name args named, entry now name args named with
  | some result, _ => result
  | none, some result => result
  | none, none =>
    if localFunctions.contains name then .error (.wrongArguments name args.length)
    else .error (.noFunction name)

end SqlVerbs.Local
