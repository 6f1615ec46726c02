import SqlVerbs.Json.Value

/-!
# Window frames

A frame of rows around the current row. Offsets are given as the host language gives them: negative
ones precede the row, and a missing one is unbounded.
-/

namespace SqlVerbs.Sql

/-- One end of a frame. -/
inductive Bound where
  | unboundedPreceding
  | preceding (rows : UInt64)
  | currentRow
  | following (rows : UInt64)
  | unboundedFollowing
deriving DecidableEq, Repr

/-- A frame; without an end it is written in the short form. -/
structure Frame where
  start : Bound
  stop : Option Bound
deriving DecidableEq, Repr

namespace Bound

/-- The bound at an offset; without an offset it is `unbounded`. -/
def ofOffset (unbounded : Bound) : Option Int64 → Bound
  | none => unbounded
  | some n =>
    if n = 0 then .currentRow
    else if n < 0 then .preceding (UInt64.ofNat n.toInt.natAbs)
    else .following (UInt64.ofNat n.toInt.natAbs)

def render : Bound → String
  | .unboundedPreceding => "UNBOUNDED PRECEDING"
  | .preceding rows => toString rows.toNat ++ " PRECEDING"
  | .currentRow => "CURRENT ROW"
  | .following rows => toString rows.toNat ++ " FOLLOWING"
  | .unboundedFollowing => "UNBOUNDED FOLLOWING"

def encode : Bound → Json.Value
  | .unboundedPreceding => .string "unbounded_preceding"
  | .preceding rows => .object [("preceding", .whole rows.toNat)]
  | .currentRow => .string "current_row"
  | .following rows => .object [("following", .whole rows.toNat)]
  | .unboundedFollowing => .string "unbounded_following"

/-- A 64-bit number of rows. -/
def decodeRows? : Json.Value → Option UInt64
  | .whole n => if 0 ≤ n ∧ n < 0x10000000000000000 then some (UInt64.ofNat n.toNat) else none
  | _ => none

def decode? : Json.Value → Option Bound
  | .string "unbounded_preceding" => some .unboundedPreceding
  | .string "current_row" => some .currentRow
  | .string "unbounded_following" => some .unboundedFollowing
  | .object [("preceding", rows)] => (decodeRows? rows).map .preceding
  | .object [("following", rows)] => (decodeRows? rows).map .following
  | _ => none

end Bound

namespace Frame

/-- The rows between two offsets. -/
def rows (first last : Option Int64) : Frame :=
  ⟨.ofOffset .unboundedPreceding first, some (.ofOffset .unboundedFollowing last)⟩

/-- All rows up to the current one. -/
def cumulative : Frame := ⟨.unboundedPreceding, none⟩

/-- All rows. -/
def full : Frame := rows none none

def render (frame : Frame) : String :=
  match frame.stop with
  | some stop => "ROWS BETWEEN " ++ frame.start.render ++ " AND " ++ stop.render
  | none => "ROWS " ++ frame.start.render

def encode (frame : Frame) : Json.Value :=
  .object [("start", frame.start.encode),
    ("end", match frame.stop with
      | some stop => stop.encode
      | none => .null)]

def decode? : Json.Value → Option Frame
  | .object members => do
    let start ← Bound.decode? (← members.lookup "start")
    match members.lookup "end" with
    | none | some .null => some ⟨start, none⟩
    | some stop => some ⟨start, some (← Bound.decode? stop)⟩
  | _ => none

end Frame

end SqlVerbs.Sql
