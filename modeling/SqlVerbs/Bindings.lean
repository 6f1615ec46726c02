/-!
# Named entries in insertion order

Named arguments, environments, list values and column maps are all short lists of named entries
whose order is visible in answers. Writing an entry under a name that is already present replaces
the value where it stands; a new name goes to the end.
-/

namespace SqlVerbs

/-- Named entries in the order in which the names were first written. -/
abbrev Bindings (α : Type) := List (String × α)

namespace Bindings

variable {α β : Type}

def get? : Bindings α → String → Option α
  | [], _ => none
  | (key, value) :: rest, name => if key = name then some value else get? rest name

/-- Writes a value under a name: in place if the name is present, at the end otherwise. -/
def insert : Bindings α → String → α → Bindings α
  | [], name, value => [(name, value)]
  | (key, old) :: rest, name, value =>
    if key = name then (key, value) :: rest else (key, old) :: insert rest name value

/-- Removes the entry of a name and keeps the order of the others. -/
def erase (entries : Bindings α) (name : String) : Bindings α :=
  entries.filter (fun entry => entry.1 ≠ name)

/-- Writes all entries of the second list into the first, from left to right. -/
def insertAll (entries : Bindings α) (more : List (String × α)) : Bindings α :=
  more.foldl (fun acc entry => insert acc entry.1 entry.2) entries

/-- Reads a list of pairs: the last value of a repeated name wins, in its first position. -/
def ofPairs (pairs : List (String × α)) : Bindings α := insertAll [] pairs

def names (entries : Bindings α) : List String := List.map Prod.fst entries

def values (entries : Bindings α) : List α := List.map Prod.snd entries

def has (entries : Bindings α) (name : String) : Bool := (get? entries name).isSome

/-- Changes every value and keeps the names. -/
def mapValues (f : α → β) (entries : Bindings α) : Bindings β :=
  List.map (fun entry => (entry.1, f entry.2)) entries

@[simp] theorem get?_nil (name : String) : get? ([] : Bindings α) name = none := rfl

theorem get?_insert_self (entries : Bindings α) (name : String) (value : α) :
    get? (insert entries name value) name = some value := by
  induction entries with
  | nil => simp [insert, get?]
  | cons entry rest ih =>
    obtain ⟨key, old⟩ := entry
    by_cases h : key = name <;> simp [insert, get?, h, ih]

theorem get?_insert_of_ne (entries : Bindings α) {name other : String} (value : α)
    (h : name ≠ other) : get? (insert entries name value) other = get? entries other := by
  induction entries with
  | nil => simp [insert, get?, h]
  | cons entry rest ih =>
    obtain ⟨key, old⟩ := entry
    by_cases hk : key = name
    · subst hk; simp [insert, get?, h]
    · simp [insert, get?, hk, ih]

end Bindings

/-- The first occurrence of every element, in order. -/
def dedup {α : Type} [BEq α] (items : List α) : List α :=
  items.foldl (fun seen item => if seen.contains item then seen else seen ++ [item]) []

end SqlVerbs
