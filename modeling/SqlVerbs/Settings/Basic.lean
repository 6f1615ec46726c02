import SqlVerbs.Dialect.Registry
import SqlVerbs.Settings.Document

/-!
# Settings

Which dialect to write, with which quotes, and how strict to be. Settings come from a document or
from environment variables.
-/

namespace SqlVerbs

/-- The settings of a session. -/
structure Settings where
  /-- The name of the dialect. -/
  dialect : String := "ansi"
  /-- Functions without a rule are errors. -/
  strict : Bool := false
  /-- One character for both sides, or an opening and a closing one. -/
  identifierQuote : Option String := none
  stringQuote : Option Char := none
deriving DecidableEq, Repr

namespace Settings

/-- The opening and the closing quote of identifiers, if they are set. -/
def quotePair (settings : Settings) : Except Error (Option (Char × Char)) :=
  match settings.identifierQuote with
  | none => .ok none
  | some quote =>
    match quote.toList with
    | [both] => .ok (some (both, both))
    | [opening, closing] => .ok (some (opening, closing))
    | _ =>
      .error (.badSetting
        ("identifier_quote must be one or two characters, got " ++ Text.quoted quote))

/-- The dialect with the quotes that are set. -/
def toDialect (settings : Settings) : Except Error Dialect := do
  let base ← Dialect.ofName settings.dialect
  let requoted := match ← settings.quotePair with
    | some (opening, closing) => base.withIdentifierQuote opening closing
    | none => base
  return match settings.stringQuote with
    | some quote => requoted.withStringQuote quote
    | none => requoted

/-- The settings, if they can be used. -/
def validate (settings : Settings) : Except Error Settings := do
  let _ ← Dialect.ofName settings.dialect
  let _ ← settings.quotePair
  return settings

/-! ## Documents -/

/-- The only character of a text. -/
def onlyChar? (text : String) : Option Char :=
  match text.toList with
  | [c] => some c
  | _ => none

/-- Writes a setting. Unknown keys and values of the wrong kind are refused. -/
def set? (settings : Settings) : String × Entry → Option Settings
  | ("dialect", .text name) => some { settings with dialect := name }
  | ("strict", .flag strict) => some { settings with strict := strict }
  | ("identifier_quote", .text quote) => some { settings with identifierQuote := some quote }
  | ("string_quote", .text quote) =>
    (onlyChar? quote).map (fun c => { settings with stringQuote := some c })
  | _ => none

/-- The settings of a document. What it does not set has its default. -/
def ofDocument (text : String) : Except Error Settings :=
  match (entries? text).bind (fun entries => entries.foldlM set? {}) with
  | some settings => settings.validate
  | none => .error .malformedSettings

/-- The settings of a file, from its contents or the reason why it could not be read. -/
def ofContents : Except String String → Except Error Settings
  | .ok text => ofDocument text
  | .error reason => .error (.io reason)

/-! ## Environment variables -/

/-- The variable with the name of the dialect. -/
def dialectVariable : String := "PUSHDOWN_SQL_DIALECT"

/-- The variable that says how strict to be. -/
def strictVariable : String := "PUSHDOWN_SQL_STRICT"

/-- The value of a switch, in any letter case and with blanks around it. -/
def switch? (value : String) : Option Bool :=
  match Dialect.lowerAscii (Text.trim value) with
  | "1" | "true" | "yes" | "on" => some true
  | "0" | "false" | "no" | "off" | "" => some false
  | _ => none

/-- The value of a switch in a variable. -/
def readSwitch (name value : String) : Except Error Bool :=
  match switch? value with
  | some on => .ok on
  | none => .error (.badSetting (name ++ ": expected a boolean, got " ++ Text.quoted value))

/-- The settings of environment variables. What they do not set has its default. -/
def ofVariables (get : String → Option String) : Except Error Settings := do
  let strict ← match get strictVariable with
    | some value => readSwitch strictVariable value
    | none => .ok false
  validate { dialect := (get dialectVariable).getD "ansi", strict := strict }

end Settings

end SqlVerbs
