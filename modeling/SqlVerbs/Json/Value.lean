/-!
# JSON values

Objects keep the order and the repetitions of their members, because both count when an object is
read as a record. Some well-formed JSON has no content: a string with half a surrogate pair, an
object with such a key, and arrays and objects that are nested too deep. It may stand where it is
skipped, and nowhere else.
-/

namespace SqlVerbs.Json

inductive Value where
  | null
  | bool (value : Bool)
  /-- A number without point and exponent. -/
  | whole (value : Int)
  | real (value : Float)
  | string (value : String)
  | array (items : List Value)
  | object (members : List (String × Value))
  /-- Well-formed JSON without content. -/
  | unreadable
deriving Inhabited

end SqlVerbs.Json
