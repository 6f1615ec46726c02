import Mathlib.Data.List.Dedup
import SqlVerbs.Proofs.Sql.CarriedValues

/-!
# An engine over numbers

A small engine that does as SQL says: it joins by nested loops, groups by equal keys and sorts by
the keys of rows. Its values are whole numbers, and conditions are numbers other than zero.
-/

namespace SqlVerbs.Sql

namespace NestedLoops

/-- A number, or null. -/
abbrev Value := Option Int

/-- The truth of a comparison, where null compares with nothing. -/
def compare (test : Int → Int → Bool) : List Value → Value
  | [some a, some b] => some (if test a b then 1 else 0)
  | _ => none

/-- Operators on numbers. -/
def operate (e : Expr) (values : List Value) : Value :=
  match e, values with
  | .literal (.integer value), _ => value.map Int64.toInt
  | .binary _ .add _, [some a, some b] => some (a + b)
  | .binary _ .sub _, [some a, some b] => some (a - b)
  | .binary _ .mul _, [some a, some b] => some (a * b)
  | .binary _ .eq _, values => compare (fun a b ↦ a = b) values
  | .binary _ .lt _, values => compare (fun a b ↦ a < b) values
  | .binary _ .gt _, values => compare (fun a b ↦ b < a) values
  | .desc _, [some a] => some (-a)
  | .function "COALESCE" _ _, [a, b] => a.or b
  | _, _ => none

/-- The number of rows, and the sum of values. -/
def aggregate (e : Expr) (rows : List (List Value)) : Value :=
  match e with
  | .function "COUNT" _ _ => some rows.length
  | .function "SUM" _ _ => some (rows.flatMap (fun row ↦ row.filterMap id)).sum
  | _ => none

/-- Groups of rows with equal keys. -/
def group (keys : List (List Value)) (rows : List (Env Value)) : List (List (Env Value)) :=
  keys.dedup.map fun key ↦ ((keys.zip rows).filter fun row ↦ row.1 = key).map Prod.snd

/-- One row of each side in one. -/
def merge (left right : Env Value) : Env Value := fun qualifier name ↦
  (left qualifier name).or (right qualifier name)

/-- The row, unless there are others in its place. -/
def orElse (found : List (Env Value)) (row : Env Value) : List (Env Value) :=
  if found.isEmpty then [row] else found

/-- The matches of all pairs. -/
def join (kind : JoinKind) (on : Env Value → Bool) (left right : List (Env Value)) :
    List (Env Value) :=
  let ofLeft (l : Env Value) := (right.map (merge l)).filter on
  let ofRight (r : Env Value) := (left.map fun l ↦ merge l r).filter on
  match kind with
  | .inner => left.flatMap ofLeft
  | .left => left.flatMap fun l ↦ orElse (ofLeft l) l
  | .right => right.flatMap fun r ↦ orElse (ofRight r) r
  | .full => (left.flatMap fun l ↦ orElse (ofLeft l) l) ++
    right.filter fun r ↦ (ofRight r).isEmpty

def isAggregate (name : String) : Bool := name = "COUNT" || name = "SUM"

/-- Does the expression call an aggregate, and no window? -/
def summarises (e : Expr) : Bool :=
  !e.isWindowed && e.parts.any fun s ↦
    match s with
    | .function name _ _ => isAggregate name
    | .withinGroup _ _ => true
    | _ => false

/-- The value of a key in one row of a group. -/
def key (unit : List (Env Value)) : Expr → Value :=
  Expr.fold fun e values ↦
    match e with
    | .identifier qualifier name => unit.headD (fun _ _ ↦ none) qualifier name
    | e => operate e.shape values

/-- Does a list of keys come before another one, or with it? Null comes first. -/
def isBefore : List Value → List Value → Bool
  | none :: _, some _ :: _ => true
  | some _ :: _, none :: _ => false
  | some a :: first, some b :: second => if a = b then isBefore first second else a < b
  | none :: first, none :: second => isBefore first second
  | _, _ => true

/-- Rows by their keys, as far as every row has some. -/
def sort (order : List Expr) (units : List (List (Env Value))) (rows : List (Row Value)) :
    List (Row Value) :=
  let keys := units.map fun unit ↦ order.map (key unit)
  if keys.length = rows.length then
    ((keys.zip rows).mergeSort fun a b ↦ isBefore a.1 b.1).map Prod.snd
  else rows

end NestedLoops

open NestedLoops

open Classical in
/-- The engine. -/
noncomputable def nestedLoops : Engine Value where
  missing := none
  operate := operate
  raw _ _ := none
  isAggregate := isAggregate
  aggregate := aggregate
  bare values := values.headD none
  windowed _ _ _ := none
  summarises := summarises
  holds value := value.any fun n ↦ n ≠ 0
  join := join
  group := group
  sort := sort
  distinct rows := rows.dedup

namespace NestedLoops

theorem perm_sort (order : List Expr) (units : List (List (Env Value)))
    (rows : List (Row Value)) : (sort order units rows).Perm rows := by
  unfold sort
  dsimp only
  split
  · rename_i hlength
    calc List.Perm _ ((units.map fun unit ↦ order.map (key unit)).zip rows |>.map Prod.snd) :=
          (List.mergeSort_perm _ _).map _
      _ = rows := List.map_snd_zip hlength.ge
  · exact .refl _

theorem ranges_of_summarises {e : Expr} (h : summarises e = true) :
    nestedLoops.isCall e = true ∨ (∃ text, e = .raw text) ∨
      ∃ c ∈ e.ranges, summarises c = true := by
  rw [summarises, Bool.and_eq_true, Bool.not_eq_true', List.any_eq_true] at h
  obtain ⟨hwindowed, s, hs, hcall⟩ := h
  rw [Expr.parts_eq, List.mem_cons, List.mem_flatMap] at hs
  rcases hs with rfl | ⟨c, hc, hs⟩
  · refine .inl ?_
    cases s <;> exact hcall
  · refine .inr (.inr ⟨c, ?_, ?_⟩)
    · cases e <;> first | exact hc | cases hwindowed
    · rw [summarises, Bool.and_eq_true, Bool.not_eq_true', List.any_eq_true]
      refine ⟨?_, s, hs, hcall⟩
      rw [Expr.isWindowed_eq_any, List.any_eq_false] at hwindowed ⊢
      exact fun t ht ↦ hwindowed t (Expr.mem_parts_of_child hc ht)

theorem mem_orElse {found : List (Env Value)} {row env : Env Value} (h : env ∈ orElse found row) :
    env = row ∨ env ∈ found := by
  unfold orElse at h
  split at h
  · exact .inl (List.mem_singleton.1 h)
  · exact .inr h

section Joins

variable {kind : JoinKind} {on : Env Value → Bool} {first second : String}
  (hlabels : first ≠ second) {left right : List (Row Value)}

theorem labelled_self (label : String) (row : Row Value) (name : String) :
    nestedLoops.labelled (some label) row (some label) name = row name := by
  simp [Engine.labelled]

theorem labelled_of_ne {label other : String} (h : other ≠ label) (row : Row Value)
    (name : String) : nestedLoops.labelled (some label) row (some other) name = none := by
  simp [Engine.labelled, h, nestedLoops]

include hlabels

theorem joins_merge {l r : Row Value} (hl : l ∈ left) (hr : r ∈ right) :
    nestedLoops.Joins none kind first second left right
      (merge (nestedLoops.labelled (some first) l) (nestedLoops.labelled (some second) r)) := by
  refine ⟨.inl ⟨l, hl, fun name ↦ ?_⟩, .inl ⟨r, hr, fun name ↦ ?_⟩⟩
  · rw [merge, labelled_self, labelled_of_ne hlabels, Option.or_none]
  · rw [merge, labelled_self, labelled_of_ne hlabels.symm, Option.none_or]

theorem joins_left {l : Row Value} (hl : l ∈ left) (hkind : kind = .left ∨ kind = .full) :
    nestedLoops.Joins none kind first second left right (nestedLoops.labelled (some first) l) :=
  ⟨.inl ⟨l, hl, labelled_self first l⟩, .inr ⟨hkind, labelled_of_ne hlabels.symm l⟩⟩

theorem joins_right {r : Row Value} (hr : r ∈ right) (hkind : kind = .right ∨ kind = .full) :
    nestedLoops.Joins none kind first second left right (nestedLoops.labelled (some second) r) :=
  ⟨.inr ⟨hkind, labelled_of_ne hlabels r⟩, .inl ⟨r, hr, labelled_self second r⟩⟩

/-- The rows that the engine makes of two sides are joined ones: a match of both, or a row of one
side where the other may have none. -/
theorem joins_of_mem_join {env : Env Value}
    (h : env ∈ join kind on (left.map (nestedLoops.labelled (some first)))
      (right.map (nestedLoops.labelled (some second)))) :
    nestedLoops.Joins none kind first second left right env := by
  have hofLeft {l : Row Value} (hl : l ∈ left)
      (henv : env ∈ ((right.map (nestedLoops.labelled (some second))).map
        (merge (nestedLoops.labelled (some first) l))).filter on) :
      nestedLoops.Joins none kind first second left right env := by
    rw [List.map_map] at henv
    obtain ⟨r, hr, rfl⟩ := List.mem_map.1 (List.mem_of_mem_filter henv)
    exact joins_merge hlabels hl hr
  have hofRight {r : Row Value} (hr : r ∈ right)
      (henv : env ∈ ((left.map (nestedLoops.labelled (some first))).map fun l ↦
        merge l (nestedLoops.labelled (some second) r)).filter on) :
      nestedLoops.Joins none kind first second left right env := by
    rw [List.map_map] at henv
    obtain ⟨l, hl, rfl⟩ := List.mem_map.1 (List.mem_of_mem_filter henv)
    exact joins_merge hlabels hl hr
  have hkept (hkind : kind = .left ∨ kind = .full)
      (henv : env ∈ (left.map (nestedLoops.labelled (some first))).flatMap fun l ↦
        orElse (((right.map (nestedLoops.labelled (some second))).map (merge l)).filter on) l) :
      nestedLoops.Joins none kind first second left right env := by
    obtain ⟨_, hmem, henv⟩ := List.mem_flatMap.1 henv
    obtain ⟨l, hl, rfl⟩ := List.mem_map.1 hmem
    rcases mem_orElse henv with rfl | hfound
    · exact joins_left hlabels hl hkind
    · exact hofLeft hl hfound
  cases kind with
  | inner =>
    obtain ⟨_, hmem, henv⟩ := List.mem_flatMap.1 h
    obtain ⟨l, hl, rfl⟩ := List.mem_map.1 hmem
    exact hofLeft hl henv
  | left => exact hkept (.inl rfl) h
  | right =>
    obtain ⟨_, hmem, henv⟩ := List.mem_flatMap.1 h
    obtain ⟨r, hr, rfl⟩ := List.mem_map.1 hmem
    rcases mem_orElse henv with rfl | hfound
    · exact joins_right hlabels hr (.inl rfl)
    · exact hofRight hr hfound
  | full =>
    rcases List.mem_append.1 h with henv | henv
    · exact hkept (.inr rfl) henv
    · obtain ⟨r, hr, rfl⟩ := List.mem_map.1 (List.mem_of_mem_filter henv)
      exact joins_right hlabels hr (.inr rfl)

end Joins

end NestedLoops

open Classical in
theorem nestedLoops_isLawful : nestedLoops.IsLawful none where
  sort := perm_sort
  distinct rows row hrow := List.mem_dedup.1 hrow
  summarises e h := ranges_of_summarises h
  coalesce := rfl
  coalesced first second := by
    cases first with
    | none => exact .inr ⟨rfl, rfl⟩
    | some value => exact .inl ⟨nofun, rfl⟩
  join kind on first second left right env hlabels h := joins_of_mem_join hlabels h

end SqlVerbs.Sql
