import SqlVerbs.Host.Expr
import SqlVerbs.Json.Value

/-!
# The JSON form of host expressions

An expression is an object with one member that says what it is: `symbol`, `literal`, `vector` or
`call`. A literal is a record of its kind and its value; a call is a record of its name, its
arguments and its named arguments. A record may also be written as an array of its fields in order.
Members that no record knows are skipped.
-/

namespace SqlVerbs

open Json (Value)

namespace Literal

/-- A payload, or null for a missing value. -/
def encodePayload {α : Type} (encode : α → Value) : Option α → Value
  | some value => encode value
  | none => .null

/-- The JSON form of a literal. -/
def encode (l : Literal) : Value :=
  let tagged (payload : Value) : Value :=
    .object [("kind", .string l.kind.name), ("value", payload)]
  match l with
  | .integer value => tagged (encodePayload (fun i => .whole i.toInt) value)
  | .double value => tagged (encodePayload .real value)
  | .logical value => tagged (encodePayload .bool value)
  | .string value => tagged (encodePayload .string value)
  | .null => .object [("kind", .string "null")]

/-- A 64-bit integer. -/
def integerPayload? : Value → Option Int64
  | .whole i =>
    if -0x8000000000000000 ≤ i ∧ i < 0x8000000000000000 then some (Int64.ofInt i) else none
  | _ => none

/-- Any finite number. -/
def doublePayload? : Value → Option Float
  | .whole i => some (Float.ofInt i)
  | .real d => if Double.isFinite d then some d else none
  | _ => none

def logicalPayload? : Value → Option Bool
  | .bool b => some b
  | _ => none

def stringPayload? : Value → Option String
  | .string s => some s
  | _ => none

/-- A missing value for null, and otherwise what `decode` reads. -/
def decodePayload {α : Type} (decode : Value → Option α) : Value → Option (Option α)
  | .null => some none
  | value => (decode value).map some

/-- The literal of a kind with a payload. -/
def ofKind? (kind : Kind) (payload : Value) : Option Literal :=
  match kind with
  | .integer => (decodePayload integerPayload? payload).map .integer
  | .double => (decodePayload doublePayload? payload).map .double
  | .logical => (decodePayload logicalPayload? payload).map .logical
  | .string => (decodePayload stringPayload? payload).map .string
  | .null =>
    match payload with
    | .null => some .null
    | _ => none

/-- A kind by its name. -/
def decodeKindName? : Value → Option Kind
  | .string name => Kind.ofName? name
  | _ => none

/-- In a record a kind is its name, or an object whose only member has that name and is null. -/
def decodeKind? : Value → Option Kind
  | .object [(name, .null)] => Kind.ofName? name
  | value => decodeKindName? value

/-- The values of all members with a name. -/
def membersNamed (name : String) (members : List (String × Value)) : List Value :=
  (members.filter (fun member => member.1 = name)).map Prod.snd

/-- Reads the JSON form of a literal. -/
def decode? : Value → Option Literal
  | .object members =>
    match membersNamed "kind" members, membersNamed "value" members with
    -- A record without a value is read as if it had a null.
    | [kind], [] => (decodeKind? kind).bind (fun k => ofKind? k .null)
    | [kind], [payload] => (decodeKind? kind).bind (fun k => ofKind? k payload)
    | _, _ => none
  | .array [kind, payload] => (decodeKindName? kind).bind (fun k => ofKind? k payload)
  | _ => none

end Literal

namespace Host.Expr

mutual

/-- The JSON form of an expression. -/
def encode : Expr → Value
  | .literal value => .object [("literal", value.encode)]
  | .vector items => .object [("vector", .array (items.map Literal.encode))]
  | .symbol name => .object [("symbol", .string name)]
  | .call name args named =>
    .object [("call", .object (("name", .string name) :: ("args", .array (encodeAll args)) ::
      (if named.isEmpty then [] else [("named", .object (encodeNamed named))])))]

def encodeAll : List Expr → List Value
  | [] => []
  | e :: rest => encode e :: encodeAll rest

def encodeNamed : List (String × Expr) → List (String × Value)
  | [] => []
  | (key, e) :: rest => (key, encode e) :: encodeNamed rest

end

/-- The literals of a vector. -/
def decodeLiterals? : Value → Option (List Literal)
  | .array items => items.mapM Literal.decode?
  | _ => none

/-- The fields of a call that have been read so far. -/
structure CallFields where
  name : Option String := none
  args : Option (List Expr) := none
  named : Option (List (String × Expr)) := none

/-- A call needs a name; the arguments may be absent. -/
def CallFields.toExpr? (fields : CallFields) : Option Expr :=
  fields.name.map (fun name => .call name (fields.args.getD []) (fields.named.getD []))

mutual

/-- Reads the JSON form of an expression. -/
def decode? : Value → Option Expr
  | .object [(tag, content)] =>
    if tag = "literal" then (Literal.decode? content).map .literal
    else if tag = "vector" then (decodeLiterals? content).map .vector
    else if tag = "symbol" then (Literal.stringPayload? content).map .symbol
    else if tag = "call" then decodeCall? content
    else none
  | _ => none

def decodeCall? : Value → Option Expr
  | .object members => do (← decodeFields? members ⟨none, none, none⟩).toExpr?
  | .array [name] => do (CallFields.mk (← Literal.stringPayload? name) none none).toExpr?
  | .array [name, args] => do
    (CallFields.mk (← Literal.stringPayload? name) (← decodeArgs? args) none).toExpr?
  | .array [name, args, named] => do
    (CallFields.mk (← Literal.stringPayload? name) (← decodeArgs? args)
      (← decodeNamed? named)).toExpr?
  | _ => none

/-- Reads the members of a call in order. No field may come twice. -/
def decodeFields? : List (String × Value) → CallFields → Option CallFields
  | [], fields => some fields
  | (key, value) :: rest, fields =>
    if key = "name" then
      if fields.name.isSome then none
      else do decodeFields? rest { fields with name := some (← Literal.stringPayload? value) }
    else if key = "args" then
      if fields.args.isSome then none
      else do decodeFields? rest { fields with args := some (← decodeArgs? value) }
    else if key = "named" then
      if fields.named.isSome then none
      else do decodeFields? rest { fields with named := some (← decodeNamed? value) }
    else decodeFields? rest fields

def decodeArgs? : Value → Option (List Expr)
  | .array items => decodeAll? items
  | _ => none

def decodeAll? : List Value → Option (List Expr)
  | [] => some []
  | value :: rest => do
    let e ← decode? value
    let rest ← decodeAll? rest
    some (e :: rest)

def decodeNamed? : Value → Option (List (String × Expr))
  | .object members => decodeMembers? members []
  | _ => none

/-- Reads the members of named arguments; a repeated name keeps its place and gets the last
value. -/
def decodeMembers? : List (String × Value) → List (String × Expr) → Option (List (String × Expr))
  | [], entries => some entries
  | (key, value) :: rest, entries => do
    let e ← decode? value
    decodeMembers? rest (Bindings.insert entries key e)

end

end Host.Expr

end SqlVerbs
