import SqlVerbs.Bindings
import SqlVerbs.Dialect.Rule

/-!
# Placing arguments

A rule names its positional parameters, and a call may give any of them by name. Arguments given
by name stand in the slots of their parameters; the positional ones fill the other slots from the
left.
-/

namespace SqlVerbs

variable {α : Type}

/-- The arguments of a call, placed for one rule. -/
structure Placement (α : Type) where
  /-- One entry for each parameter; a gap is a parameter that the call skips. -/
  slots : List (Option α)
  /-- The arguments that the rule takes by name only. -/
  keywords : Bindings α
  /-- The names that mean nothing to the rule. -/
  ignored : List String

/-- What a rule does with an argument that is given by name. -/
inductive NamedRole where
  | keyword
  | slot (index : Nat)
  /-- One more element of a vector. -/
  | appended
  | ignored
deriving DecidableEq, Repr

/-- The role of a name in a rule. -/
def Rule.roleOf (rule : Rule) (name : String) : NamedRole :=
  if rule.keywords.contains name then .keyword
  else
    match rule.params.findIdx? (· = name) with
    | some index => .slot index
    | none => if rule.kind = .combine then .appended else .ignored

def Rule.withRole (rule : Rule) (role : NamedRole) (named : List (String × α)) :
    List (String × α) :=
  named.filter (fun entry => rule.roleOf entry.1 = role)

/-- The argument that is given by name for a slot. -/
def Rule.namedFor (rule : Rule) (named : List (String × α)) (index : Nat) : Option α :=
  -- Of arguments with the same name the last one counts.
  ((rule.withRole (.slot index) named).getLast?).map Prod.snd

/-- The number of slots up to the last one that is given by name. -/
def Rule.namedSlots (rule : Rule) (named : List (String × α)) : Nat :=
  named.foldl (fun count entry =>
    match rule.roleOf entry.1 with
    | .slot index => max count (index + 1)
    | _ => count) 0

/-- Fills slots from left to right: by name if there is such an argument, otherwise with the next
positional one. Positional arguments that are left over follow. -/
def fillSlots (byName : Nat → Option α) : List Nat → List α → List (Option α)
  | [], positional => positional.map some
  | index :: later, positional =>
    match byName index, positional with
    | some value, _ => some value :: fillSlots byName later positional
    | none, next :: rest => some next :: fillSlots byName later rest
    | none, [] => none :: fillSlots byName later []

/-- Places the arguments of a call for a rule. -/
def Rule.place (rule : Rule) (args : List α) (named : List (String × α)) : Placement α where
  slots :=
    fillSlots (rule.namedFor named) (List.range (rule.namedSlots named)) args ++
      (rule.withRole .appended named).map (fun entry => some entry.2)
  keywords := rule.withRole .keyword named
  ignored := (rule.withRole .ignored named).map Prod.fst

/-- The first rule that accepts the arguments of a call, with their placement. -/
def resolveRule (args : List α) (named : List (String × α)) :
    List Rule → Option (Rule × Placement α)
  | [] => none
  | rule :: later =>
    let placement := rule.place args named
    if rule.arity.accepts placement.slots.length then some (rule, placement)
    else resolveRule args named later

/-- The number of arguments of a call as its first rule counts them. -/
def countedArguments (args : List α) (named : List (String × α)) : List Rule → Nat
  | [] => args.length
  | rule :: _ => (rule.place args named).slots.length

end SqlVerbs
