import SqlVerbs.Dialect.Registry
import SqlVerbs.Proofs.Lowering.Runs

/-!
# The places of arguments

The slots of a call are filled one after the other, from the named arguments and the positional
ones. A named argument is in the slot of its parameter wherever it stands in the call, so that a
rule sees the same call in all of its spellings: the named arguments may be in any order, and the
first positional argument may be given by the name of the first parameter that has none.
-/

namespace SqlVerbs

variable {α : Type}

/-! ## Filling slots -/

/-- The loop that fills the slots from this index on, and what it ends with. An argument that is
given by name goes first, and then the next positional one. A slot without either is a gap if a
later one is given by name, and otherwise the loop is done. -/
inductive Fills (byName : Nat → Option α) : Nat → List α → List (Option α) → Prop
  | named {index : Nat} {value : α} {args : List α} {slots : List (Option α)}
    (found : byName index = some value) (later : Fills byName (index + 1) args slots) :
    Fills byName index args (some value :: slots)
  | positional {index : Nat} {next : α} {args : List α} {slots : List (Option α)}
    (free : byName index = none) (later : Fills byName (index + 1) args slots) :
    Fills byName index (next :: args) (some next :: slots)
  | gap {index : Nat} {slots : List (Option α)} (free : byName index = none)
    (needed : ∃ i > index, (byName i).isSome) (later : Fills byName (index + 1) [] slots) :
    Fills byName index [] (none :: slots)
  | done {index : Nat} (free : ∀ i ≥ index, byName i = none) : Fills byName index [] []

namespace Fills

variable {byName : Nat → Option α} {index : Nat} {args : List α} {slots : List (Option α)}

theorem unique (h : Fills byName index args slots) {slots' : List (Option α)}
    (h' : Fills byName index args slots') : slots = slots' := by
  induction h generalizing slots' with
  | named found _ ih =>
    cases h' with
    | named found' later =>
      obtain rfl := Option.some.inj (found.symm.trans found')
      rw [ih later]
    | positional free | gap free => cases found.symm.trans free
    | done free => cases found.symm.trans (free _ (Nat.le_refl _))
  | positional free _ ih =>
    cases h' with
    | named found => cases found.symm.trans free
    | positional _ later => rw [ih later]
  | gap free needed _ ih =>
    cases h' with
    | named found => cases found.symm.trans free
    | gap _ _ later => rw [ih later]
    | done hfree =>
      obtain ⟨i, hi, hsome⟩ := needed
      rw [hfree i (Nat.le_of_lt hi)] at hsome
      cases hsome
  | done hfree =>
    cases h' with
    | named found => cases found.symm.trans (hfree _ (Nat.le_refl _))
    | gap _ needed =>
      obtain ⟨i, hi, hsome⟩ := needed
      rw [hfree i (Nat.le_of_lt hi)] at hsome
      cases hsome
    | done => rfl

/-- An argument that is given by name is in its slot. -/
theorem at_name (h : Fills byName index args slots) {i : Nat} (hi : index ≤ i) {value : α}
    (hvalue : byName i = some value) : slots[i - index]? = some (some value) := by
  induction h with
  | @named index _ _ _ found _ ih =>
    obtain rfl | hlater := Nat.eq_or_lt_of_le hi
    · obtain rfl := Option.some.inj (found.symm.trans hvalue)
      simp
    · obtain ⟨k, rfl⟩ := Nat.exists_eq_add_of_lt hlater
      simpa [Nat.add_assoc, Nat.add_sub_add_left] using ih hlater
  | @positional index _ _ _ free _ ih | @gap index _ free _ _ ih =>
    obtain rfl | hlater := Nat.eq_or_lt_of_le hi
    · cases free.symm.trans hvalue
    · obtain ⟨k, rfl⟩ := Nat.exists_eq_add_of_lt hlater
      simpa [Nat.add_assoc, Nat.add_sub_add_left] using ih hlater
  | done free => cases (free i hi).symm.trans hvalue

/-- The slots without names have the positional arguments, and then gaps. -/
theorem unnamed (h : Fills byName index args slots) : ∃ gaps,
    ((slots.zipIdx index).filter (fun slot ↦ (byName slot.2).isNone)).map Prod.fst =
      args.map some ++ List.replicate gaps none := by
  induction h with
  | named found _ ih => simpa [found] using ih
  | positional free _ ih => simpa [free] using ih
  | gap free _ _ ih =>
    obtain ⟨gaps, hgaps⟩ := ih
    exact ⟨gaps + 1, by simpa [free, List.replicate_succ] using hgaps⟩
  | done => exact ⟨0, rfl⟩

/-- There is a gap only below an argument that is given by name. -/
theorem below_name (h : Fills byName index args slots) {k : Nat} (hk : slots[k]? = some none) :
    ∃ i > index + k, (byName i).isSome := by
  induction h generalizing k with
  | named _ _ ih | positional _ _ ih =>
    cases k with
    | zero => simp at hk
    | succ k =>
      obtain ⟨i, hi, hsome⟩ := ih (by simpa using hk)
      exact ⟨i, by omega, hsome⟩
  | gap _ needed _ ih =>
    cases k with
    | zero => exact needed
    | succ k =>
      obtain ⟨i, hi, hsome⟩ := ih (by simpa using hk)
      exact ⟨i, by omega, hsome⟩
  | done => simp at hk

theorem congr {byName' : Nat → Option α} (h : Fills byName index args slots)
    (hsame : ∀ i ≥ index, byName i = byName' i) : Fills byName' index args slots := by
  induction h with
  | named found _ ih =>
    exact .named (hsame _ (Nat.le_refl _) ▸ found) (ih fun i hi ↦ hsame i (Nat.le_of_succ_le hi))
  | positional free _ ih =>
    exact .positional (hsame _ (Nat.le_refl _) ▸ free)
      (ih fun i hi ↦ hsame i (Nat.le_of_succ_le hi))
  | gap free needed _ ih =>
    obtain ⟨i, hi, hsome⟩ := needed
    exact .gap (hsame _ (Nat.le_refl _) ▸ free) ⟨i, hi, hsame i (Nat.le_of_lt hi) ▸ hsome⟩
      (ih fun i hi ↦ hsame i (Nat.le_of_succ_le hi))
  | done free => exact .done fun i hi ↦ hsame i hi ▸ free i hi

/-- The first positional argument may be given by name for the slot that it has. -/
theorem nameFirst {a : α} (h : Fills byName index (a :: args) slots) {i : Nat} (hi : index ≤ i)
    (hfree : byName i = none) (hbefore : ∀ j, index ≤ j → j < i → (byName j).isSome) :
    Fills (fun j ↦ if j = i then some a else byName j) index args slots := by
  generalize hall : a :: args = all at h
  induction h with
  | @named index value _ _ found later ih =>
    have hne : index ≠ i := by
      rintro rfl
      cases found.symm.trans hfree
    refine .named (by simp [hne, found]) (ih (by omega) (fun j hj ↦ hbefore j (by omega)) hall)
  | @positional index next _ _ free later =>
    cases hall
    have hfirst : index = i := by
      by_contra hne
      have hsome := hbefore index (Nat.le_refl _) (by omega)
      rw [free] at hsome
      cases hsome
    subst hfirst
    exact .named (by simp) (later.congr fun j hj ↦ by simp [Nat.ne_of_gt hj])
  | gap | done => cases hall

end Fills

theorem fills_positional {byName : Nat → Option α} {index : Nat}
    (hfree : ∀ i ≥ index, byName i = none) (args : List α) :
    Fills byName index args (args.map some) := by
  induction args generalizing index with
  | nil => exact .done hfree
  | cons a args ih =>
    exact .positional (hfree index (Nat.le_refl _)) (ih fun i hi ↦ hfree i (Nat.le_of_succ_le hi))

theorem fills_fillSlots {byName : Nat → Option α} {index count : Nat}
    (hfree : ∀ i ≥ index + count, byName i = none)
    (hlast : 0 < count → (byName (index + count - 1)).isSome) (args : List α) :
    Fills byName index args (fillSlots byName (List.range' index count) args) := by
  induction count generalizing index args with
  | zero => exact fills_positional hfree args
  | succ count ih =>
    have hlater (args : List α) : Fills byName (index + 1) args
        (fillSlots byName (List.range' (index + 1) count) args) :=
      ih (fun i hi ↦ hfree i (by omega))
        (fun _ ↦ by simpa [Nat.add_right_comm] using hlast (Nat.succ_pos _)) args
    rw [List.range'_succ]
    cases hindex : byName index with
    | some value => simpa [fillSlots, hindex] using .named hindex (hlater args)
    | none =>
      cases args with
      | cons a args => simpa [fillSlots, hindex] using .positional hindex (hlater args)
      | nil =>
        have hneeded : ∃ i > index, (byName i).isSome := by
          refine ⟨index + count, ?_, hlast (Nat.succ_pos _)⟩
          rcases Nat.eq_zero_or_pos count with rfl | hcount
          · have hsome := hlast (Nat.succ_pos _)
            rw [Nat.add_sub_cancel, hindex] at hsome
            cases hsome
          · omega
        simpa [fillSlots, hindex] using .gap hindex hneeded (hlater [])

/-! ## The roles of names -/

/-- Is the argument for a slot? -/
def NamedRole.isSlot : NamedRole → Bool
  | .slot _ => true
  | _ => false

namespace Rule

variable {rule : Rule} {name : String} {index : Nat} {named named' : List (String × α)}

theorem roleOf_eq_slot : rule.roleOf name = .slot index ↔
    rule.keywords.contains name = false ∧ rule.params.findIdx? (· = name) = some index := by
  unfold roleOf
  split
  · simp_all
  · cases hfound : rule.params.findIdx? (· = name) with
    | none =>
      simp only [reduceCtorEq, and_false, iff_false]
      split <;> nofun
    | some found => simp_all

theorem roleOf_eq_keyword : rule.roleOf name = .keyword ↔ name ∈ rule.keywords := by
  unfold roleOf
  split
  · simp_all
  · split
    · simp_all
    · split <;> simp_all

theorem params_of_roleOf (h : rule.roleOf name = .slot index) :
    rule.params[index]? = some name := by
  obtain ⟨hindex, hname, -⟩ := List.findIdx?_eq_some_iff_getElem.1 (roleOf_eq_slot.1 h).2
  rw [List.getElem?_eq_getElem hindex]
  simpa using hname

theorem roleOf_ne_appended (h : rule.kind ≠ .combine) : rule.roleOf name ≠ .appended := by
  unfold roleOf
  split
  · nofun
  · split <;> nofun

theorem withRole_appended (h : rule.kind ≠ .combine) : rule.withRole .appended named = [] := by
  rw [withRole, List.filter_eq_nil_iff]
  intro entry _ hrole
  exact roleOf_ne_appended h (of_decide_eq_true hrole)

/-- The named arguments that are for slots. -/
def slotted (rule : Rule) (named : List (String × α)) : List (String × α) :=
  named.filter fun entry ↦ (rule.roleOf entry.1).isSlot

/-- Every named argument has one role. -/
theorem perm_roles (rule : Rule) (named : List (String × α)) :
    named.Perm (rule.withRole .keyword named ++ rule.slotted named ++
      rule.withRole .appended named ++ rule.withRole .ignored named) := by
  induction named with
  | nil => exact .nil
  | cons entry rest ih =>
    have hmore (before after : List (String × α)) (h : rest.Perm (before ++ after)) :
        (entry :: rest).Perm (before ++ entry :: after) :=
      (h.cons entry).trans List.perm_middle.symm
    simp only [withRole, slotted, List.append_assoc] at ih ⊢
    cases hrole : rule.roleOf entry.1 <;> simp only [List.filter_cons, hrole, NamedRole.isSlot,
      reduceCtorEq, decide_true, decide_false, if_true, Bool.false_eq_true, if_false]
    · exact ih.cons entry
    · exact hmore _ _ ih
    · rw [← List.append_assoc] at ih ⊢
      exact hmore _ _ ih
    · rw [← List.append_assoc, ← List.append_assoc] at ih ⊢
      exact hmore _ _ ih

/-! ## Arguments that are given by name -/

theorem mem_withRole {role : NamedRole} {entry : String × α} :
    entry ∈ rule.withRole role named ↔ entry ∈ named ∧ rule.roleOf entry.1 = role := by
  simp [withRole]

theorem namedFor_eq_none :
    rule.namedFor named index = none ↔ ∀ entry ∈ named, rule.roleOf entry.1 ≠ .slot index := by
  rw [namedFor, Option.map_eq_none_iff, List.getLast?_eq_none_iff, withRole, List.filter_eq_nil_iff]
  simp

section Distinct

variable (hnodup : (named.map Prod.fst).Nodup)

include hnodup

/-- No two arguments are given for one slot. -/
theorem namedFor_of_mem {entry : String × α} (hentry : entry ∈ named)
    (hrole : rule.roleOf entry.1 = .slot index) : rule.namedFor named index = some entry.2 := by
  cases hfound : (rule.withRole (.slot index) named).getLast? with
  | none =>
    rw [List.getLast?_eq_none_iff] at hfound
    have hmem := mem_withRole.2 ⟨hentry, hrole⟩
    rw [hfound] at hmem
    cases hmem
  | some found =>
    obtain ⟨hother, hrole'⟩ := mem_withRole.1 (List.mem_of_getLast? hfound)
    have hname : found.1 = entry.1 :=
      Option.some.inj ((params_of_roleOf hrole').symm.trans (params_of_roleOf hrole))
    obtain rfl := List.inj_on_of_nodup_map hnodup hother hentry hname
    rw [namedFor, hfound, Option.map_some]

theorem namedFor_eq_some {a : α} : rule.namedFor named index = some a ↔
    ∃ entry ∈ named, rule.roleOf entry.1 = .slot index ∧ entry.2 = a := by
  constructor
  · intro h
    obtain ⟨entry, hentry, rfl⟩ := Option.map_eq_some_iff.1 h
    obtain ⟨hmem, hrole⟩ := mem_withRole.1 (List.mem_of_getLast? hentry)
    exact ⟨entry, hmem, hrole, rfl⟩
  · rintro ⟨entry, hentry, hrole, rfl⟩
    exact namedFor_of_mem hnodup hentry hrole

theorem namedFor_perm (h : named.Perm named') : rule.namedFor named = rule.namedFor named' := by
  have hnodup' : (named'.map Prod.fst).Nodup := (h.map Prod.fst).nodup_iff.1 hnodup
  funext index
  ext a
  simp only [namedFor_eq_some hnodup, namedFor_eq_some hnodup', h.mem_iff]

end Distinct

theorem namedSlots_le_iff {count : Nat} :
    rule.namedSlots named ≤ count ↔ ∀ index ≥ count, rule.namedFor named index = none := by
  have hfold (start : Nat) :
      named.foldl (fun count entry ↦
        match rule.roleOf entry.1 with
        | .slot index => max count (index + 1)
        | _ => count) start ≤ count ↔
      start ≤ count ∧ ∀ entry ∈ named, ∀ index, rule.roleOf entry.1 = .slot index →
        index < count := by
    induction named generalizing start with
    | nil => simp
    | cons entry rest ih =>
      rw [List.foldl_cons, ih, List.forall_mem_cons]
      cases rule.roleOf entry.1 with
      | slot index => simp [Nat.max_le, and_assoc, Nat.succ_le_iff]
      | _ => simp
  refine (hfold 0).trans ?_
  simp only [namedFor_eq_none, Nat.zero_le, true_and]
  constructor
  · intro h index hindex entry hentry hrole
    exact absurd (h entry hentry index hrole) (Nat.not_lt.2 hindex)
  · intro h entry hentry index hrole
    by_contra hindex
    exact h index (Nat.not_lt.1 hindex) entry hentry hrole

/-- The slots before all appended arguments. -/
def filled (rule : Rule) (args : List α) (named : List (String × α)) : List (Option α) :=
  fillSlots (rule.namedFor named) (List.range (rule.namedSlots named)) args

theorem fills_filled (rule : Rule) (args : List α) (named : List (String × α)) :
    Fills (rule.namedFor named) 0 args (rule.filled args named) := by
  rw [filled, List.range_eq_range']
  refine fills_fillSlots (fun i hi ↦ ?_) (fun hpos ↦ ?_) args
  · exact namedSlots_le_iff.1 (Nat.le_refl _) i (by omega)
  · -- The last slot that is given by name is the last one counted.
    rw [Option.isSome_iff_ne_none]
    intro hnone
    have hless : rule.namedSlots named ≤ rule.namedSlots named - 1 := by
      refine namedSlots_le_iff.2 fun i hi ↦ ?_
      obtain rfl | hlater := Nat.eq_or_lt_of_le hi
      · simpa using hnone
      · exact namedSlots_le_iff.1 (Nat.le_refl _) i (by omega)
    omega

/-! ## Placed arguments -/

/-- Where the arguments of a call are placed for a rule. -/
structure Places (rule : Rule) (args : List α) (named : List (String × α))
    (placement : Placement α) : Prop where
  /-- The loop over the slots ends, and it ends with these. -/
  loop : Fills (rule.namedFor named) 0 args (rule.filled args named)
  slots : placement.slots =
    rule.filled args named ++ (rule.withRole .appended named).map fun entry ↦ some entry.2
  /-- An argument with the name of a parameter is in the slot of the parameter, unless it is a
  keyword. -/
  byName : ∀ entry ∈ named, entry.1 ∉ rule.keywords → ∀ index,
    rule.params.findIdx? (· = entry.1) = some index → placement.slots[index]? = some (some entry.2)
  /-- The other slots have the positional arguments in their order, and then gaps. -/
  positional : ∃ gaps, ((rule.filled args named).zipIdx.filter
      fun slot ↦ (rule.namedFor named slot.2).isNone).map Prod.fst =
    args.map some ++ List.replicate gaps none
  gaps : ∀ index, placement.slots[index]? = some none →
    ∃ later > index, (rule.namedFor named later).isSome
  last : placement.slots.getLast? ≠ some none
  /-- Every named argument is in one place. -/
  entries : named.Perm (placement.keywords ++ rule.slotted named ++
    rule.withRole .appended named ++ rule.withRole .ignored named)
  keywords : placement.keywords = named.filter fun entry ↦ rule.keywords.contains entry.1
  ignored : placement.ignored = (rule.withRole .ignored named).map Prod.fst
  appended : rule.kind ≠ .combine → rule.withRole .appended named = []

theorem getElem?_filled_of_gap {args : List α} {appended : List (String × α)}
    (h : (rule.filled args named ++ appended.map fun entry ↦ some entry.2)[index]? = some none) :
    (rule.filled args named)[index]? = some none := by
  rw [List.getElem?_append] at h
  split at h
  · exact h
  · simp at h

theorem place_places (rule : Rule) (args : List α) {named : List (String × α)}
    (hnodup : (named.map Prod.fst).Nodup) : rule.Places args named (rule.place args named) := by
  have hfills := rule.fills_filled args named
  have hslots : (rule.place args named).slots =
      rule.filled args named ++ (rule.withRole .appended named).map fun entry ↦ some entry.2 := rfl
  -- The loop stops once no later parameter is named, so a gap has a named parameter behind it.
  have hgaps (index : Nat) (h : (rule.place args named).slots[index]? = some none) :
      ∃ later > index, (rule.namedFor named later).isSome := by
    rw [hslots] at h
    simpa using hfills.below_name (getElem?_filled_of_gap h)
  have hnamed (index : Nat) (a : α) (h : rule.namedFor named index = some a) :
      (rule.place args named).slots[index]? = some (some a) := by
    have hfilled := hfills.at_name (Nat.zero_le index) h
    rw [Nat.sub_zero] at hfilled
    obtain ⟨hindex, -⟩ := List.getElem?_eq_some_iff.1 hfilled
    rw [hslots, List.getElem?_append_left hindex, hfilled]
  exact {
    loop := hfills
    slots := hslots
    byName := fun entry hentry hkeyword index hparam ↦ by
      have hrole : rule.roleOf entry.1 = .slot index :=
        roleOf_eq_slot.2 ⟨by simpa using hkeyword, hparam⟩
      exact hnamed index entry.2 (namedFor_of_mem hnodup hentry hrole)
    positional := hfills.unnamed
    gaps := hgaps
    last := by
      intro hlast
      rw [List.getLast?_eq_getElem?] at hlast
      obtain ⟨later, hlater, hsome⟩ := hgaps _ hlast
      obtain ⟨a, ha⟩ := Option.isSome_iff_exists.1 hsome
      obtain ⟨hindex, -⟩ := List.getElem?_eq_some_iff.1 (hnamed later a ha)
      omega
    entries := rule.perm_roles named
    keywords := List.filter_congr fun entry _ ↦ by simp [roleOf_eq_keyword]
    ignored := rfl
    appended := withRole_appended }

/-! ## Spellings of a call -/

/-- Is this the name of the first parameter that has no argument by name? The first positional
argument is for that one. -/
def FillsNext (rule : Rule) (named : List (String × α)) (param : String) : Prop :=
  ∃ index, rule.roleOf param = .slot index ∧ rule.namedFor named index = none ∧
    ∀ earlier < index, (rule.namedFor named earlier).isSome

end Rule

/-- A call and one that passes the same arguments, by functions with these rules: the named
arguments are in any order, and positional ones from the left on may be given by the names of their
parameters, as long as all rules have the same names for them. -/
inductive SpellsOut (rules : List Rule) : List α → List (String × α) → List α →
    List (String × α) → Prop
  | reordered {args : List α} {named named' : List (String × α)} (same : named.Perm named') :
    SpellsOut rules args named args named'
  | named {a : α} {args args' : List α} {named named' : List (String × α)} {param : String}
    (known : rules ≠ []) (next : ∀ rule ∈ rules, rule.FillsNext named param)
    (later : SpellsOut rules args ((param, a) :: named) args' named') :
    SpellsOut rules (a :: args) named args' named'

/-- A rule that finds arguments by their slots and their names cannot tell these apart. -/
structure Placement.Alike (placement placement' : Placement α) : Prop where
  slots : placement.slots = placement'.slots
  keyword : ∀ key, placement.keywords.get? key = placement'.keywords.get? key

theorem Placement.Alike.map {β : Type} {placement placement' : Placement α}
    (h : placement.Alike placement') (f : α → β) :
    (placement.map f).Alike (placement'.map f) where
  slots := congrArg (List.map (Option.map f)) h.slots
  keyword key := by simp [Placement.map, h.keyword key]

theorem Bindings.get?_perm {entries entries' : Bindings α} (h : entries.Perm entries')
    (hnodup : (names entries).Nodup) (name : String) : entries.get? name = entries'.get? name := by
  have hnodup' : (names entries').Nodup := (h.map Prod.fst).nodup_iff.1 hnodup
  ext value
  exact ⟨fun hvalue ↦ get?_of_mem hnodup' (h.mem_iff.1 (mem_of_get? hvalue)),
    fun hvalue ↦ get?_of_mem hnodup (h.mem_iff.2 (mem_of_get? hvalue))⟩

namespace Rule

variable {rule : Rule} {args : List α} {named named' : List (String × α)} {param : String} {a : α}

/-- Only appended arguments, which are in a vector, keep the order of the names. -/
theorem place_perm (h : named.Perm named') (hnodup : (named.map Prod.fst).Nodup) :
    (rule.place args named).slots.length = (rule.place args named').slots.length ∧
      (rule.kind ≠ .combine → (rule.place args named).Alike (rule.place args named')) := by
  have hfilled : rule.filled args named = rule.filled args named' := by
    refine (rule.fills_filled args named).unique ?_
    rw [namedFor_perm hnodup h]
    exact rule.fills_filled args named'
  have hslots (named : List (String × α)) : (rule.place args named).slots =
      rule.filled args named ++ (rule.withRole .appended named).map fun entry ↦ some entry.2 := rfl
  constructor
  · have happended : (rule.withRole .appended named).Perm (rule.withRole .appended named') :=
      h.filter _
    rw [hslots, hslots, hfilled, List.length_append, List.length_append, List.length_map,
      List.length_map, happended.length_eq]
  · intro hkind
    refine ⟨?_, Bindings.get?_perm (h.filter _) (hnodup.sublist (List.filter_sublist.map _))⟩
    rw [hslots, hslots, hfilled, withRole_appended hkind, withRole_appended hkind]

theorem FillsNext.notMem (h : rule.FillsNext named param) : param ∉ named.map Prod.fst := by
  obtain ⟨index, hrole, hfree, -⟩ := h
  intro hmem
  obtain ⟨entry, hentry, rfl⟩ := List.mem_map.1 hmem
  exact namedFor_eq_none.1 hfree entry hentry hrole

section SameParameters

variable {rule' : Rule} (hparams : rule.params = rule'.params)
  (hkeywords : rule.keywords = rule'.keywords)

include hparams hkeywords

theorem roleOf_eq_slot_congr (name : String) (index : Nat) :
    rule.roleOf name = .slot index ↔ rule'.roleOf name = .slot index := by
  rw [roleOf_eq_slot, roleOf_eq_slot, hparams, hkeywords]

theorem FillsNext.congr (h : rule.FillsNext named param) : rule'.FillsNext named param := by
  have hnamed : rule.namedFor named = rule'.namedFor named := by
    funext index
    simp only [namedFor, withRole, roleOf_eq_slot_congr hparams hkeywords]
  obtain ⟨index, hrole, hfree, hbefore⟩ := h
  rw [hnamed] at hfree hbefore
  exact ⟨index, (roleOf_eq_slot_congr hparams hkeywords param index).1 hrole, hfree, hbefore⟩

end SameParameters

theorem withRole_cons_of_ne {role : NamedRole} (h : rule.roleOf param ≠ role) :
    rule.withRole role ((param, a) :: named) = rule.withRole role named := by
  simp [withRole, h]

theorem namedFor_cons {index : Nat} (hrole : rule.roleOf param = .slot index)
    (hfree : rule.namedFor named index = none) :
    rule.namedFor ((param, a) :: named) =
      fun i ↦ if i = index then some a else rule.namedFor named i := by
  funext i
  by_cases hi : i = index
  · subst hi
    have hnone : rule.withRole (.slot i) named = [] := by
      simpa [namedFor, List.getLast?_eq_none_iff] using hfree
    rw [if_pos rfl, namedFor, withRole, List.filter_cons_of_pos (by simpa using hrole), ← withRole,
      hnone]
    rfl
  · rw [if_neg hi, namedFor, withRole_cons_of_ne (by simpa [hrole] using Ne.symm hi), namedFor]

/-- The first positional argument may be given by the name of its parameter. -/
theorem FillsNext.alike (h : rule.FillsNext named param) :
    (rule.place (a :: args) named).Alike (rule.place args ((param, a) :: named)) := by
  obtain ⟨index, hrole, hfree, hbefore⟩ := h
  have hfilled : rule.filled (a :: args) named = rule.filled args ((param, a) :: named) := by
    have hnamed := (rule.fills_filled (a :: args) named).nameFirst (Nat.zero_le index) hfree
      fun j _ hj ↦ hbefore j hj
    rw [← namedFor_cons hrole hfree] at hnamed
    exact hnamed.unique (rule.fills_filled args ((param, a) :: named))
  constructor
  · change rule.filled _ _ ++ _ = rule.filled _ _ ++ _
    rw [hfilled, withRole_cons_of_ne (by simp [hrole])]
  · intro key
    change Bindings.get? (rule.withRole _ _) _ = Bindings.get? (rule.withRole _ _) _
    rw [withRole_cons_of_ne (by simp [hrole])]

end Rule

namespace SpellsOut

variable {rules : List Rule} {args args' : List α} {named named' : List (String × α)}

/-- Every rule counts as many arguments in another spelling, and it finds them in their places. -/
theorem place (h : SpellsOut rules args named args' named') (hnodup : (named.map Prod.fst).Nodup) :
    ∀ rule ∈ rules,
      (rule.place args named).slots.length = (rule.place args' named').slots.length ∧
        (rule.kind ≠ .combine → (rule.place args named).Alike (rule.place args' named')) := by
  induction h with
  | reordered same => exact fun rule _ ↦ rule.place_perm same hnodup
  | @named a args args' named named' param known next _ ih =>
    intro rule hrule
    have hdistinct : (((param, a) :: named).map Prod.fst).Nodup :=
      List.nodup_cons.2 ⟨(next rule hrule).notMem, hnodup⟩
    obtain ⟨hlength, halike⟩ := ih hdistinct rule hrule
    have hfirst : (rule.place (a :: args) named).Alike (rule.place args ((param, a) :: named)) :=
      (next rule hrule).alike
    refine ⟨(congrArg List.length hfirst.slots).trans hlength, fun hkind ↦ ?_⟩
    have hlater := halike hkind
    exact ⟨hfirst.slots.trans hlater.slots,
      fun key ↦ (hfirst.keyword key).trans (hlater.keyword key)⟩

theorem countedArguments_eq (h : SpellsOut rules args named args' named')
    (hnodup : (named.map Prod.fst).Nodup) :
    countedArguments args named rules = countedArguments args' named' rules := by
  cases rules with
  | nil =>
    cases h with
    | reordered => rfl
    | named known => exact absurd rfl known
  | cons rule later => exact (h.place hnodup rule List.mem_cons_self).1

theorem resolveRule_alike
    (h : ∀ rule ∈ rules,
      (rule.place args named).slots.length = (rule.place args' named').slots.length) :
    (resolveRule args named rules = none ∧ resolveRule args' named' rules = none) ∨
      ∃ rule ∈ rules, resolveRule args named rules = some (rule, rule.place args named) ∧
        resolveRule args' named' rules = some (rule, rule.place args' named') := by
  induction rules with
  | nil => exact .inl ⟨rfl, rfl⟩
  | cons rule later ih =>
    rw [List.forall_mem_cons] at h
    simp only [resolveRule, h.1]
    split
    · exact .inr ⟨rule, List.mem_cons_self, rfl, rfl⟩
    · rcases ih h.2 with hnone | ⟨found, hfound, hresolved⟩
      · exact .inl hnone
      · exact .inr ⟨found, List.mem_cons_of_mem _ hfound, hresolved⟩

/-- In the built-in dialects the rules of a function have the same names for the parameters. -/
theorem of_rule {d : Dialect} (hd : d ∈ Dialect.builtin) {name : String}
    (hrules : d.rulesFor name = some rules) {rule : Rule} (hrule : rule ∈ rules)
    (h : SpellsOut [rule] args named args' named') : SpellsOut rules args named args' named' := by
  have htable : ∀ d ∈ Dialect.builtin, ∀ entry ∈ d.rules, ∀ rule ∈ entry.2, ∀ rule' ∈ entry.2,
      rule.params = rule'.params ∧ rule.keywords = rule'.keywords := by
    decide +kernel
  have hsame := htable d hd _ (Bindings.mem_of_get? hrules) rule hrule
  induction h with
  | reordered same => exact .reordered same
  | named _ next _ ih =>
    refine .named (List.ne_nil_of_mem hrule) (fun rule' hrule' ↦ ?_) ih
    obtain ⟨hparams, hkeywords⟩ := hsame rule' hrule'
    exact (next rule List.mem_cons_self).congr hparams hkeywords

end SpellsOut

/-! ## Calls in other spellings -/

/-- The same errors and results, whatever was warned of. -/
instance : WarnsAlike fun _ _ ↦ True where
  refl _ := trivial
  append _ _ := trivial

theorem Noted.Compares.toExcept_eq {β : Type} {x y : Noted β}
    (h : Noted.Compares (fun _ _ ↦ True) (fun _ ↦ False) Eq x y) : x.toExcept = y.toExcept := by
  cases h with
  | stopped h => exact h.elim
  | failed e => rfl
  | @done first second h =>
    obtain ⟨a, warnings⟩ := first
    obtain ⟨_, warnings'⟩ := second
    obtain ⟨rfl, -⟩ := h
    rfl

namespace Lowering

open Noted (Compares)

theorem viewOf_alike {cx : Context} {placement placement' : Placement Host.Expr}
    (h : placement.Alike placement') (kind : RuleKind) :
    viewOf cx placement kind = viewOf cx placement' kind := by
  cases kind <;> simp [viewOf, Placement.slot?, h.slots, h.keyword]

/-- What a rule makes of a call does not depend on how the call is spelled. -/
theorem applyRule_alike (cx : Context) (ordering : Noted (List Sql.Expr)) (name : String)
    (source source' : Host.Expr) {placement placement' : Placement Operand}
    (h : placement.Alike placement') (kind : RuleKind) :
    Compares (fun _ _ ↦ True) (fun _ ↦ False) Eq
      (applyRule cx ordering ⟨name, source, placement.slots, placement.keywords⟩ kind)
      (applyRule cx ordering ⟨name, source', placement'.slots, placement'.keywords⟩ kind) := by
  have hoperand (operand? : Option Operand) :
      Option.Rel (Operand.Meets (fun _ _ ↦ True) (fun _ ↦ False)) operand? operand? := by
    cases operand? with
    | none => exact .none
    | some operand =>
      exact .some ⟨.refl _, fun _ _ ↦ List.forall₂_same.2 fun _ _ ↦ .refl _⟩
  have hcall : Call.Meets (fun _ _ ↦ True) (fun _ ↦ False)
      ⟨name, source, placement.slots, placement.keywords⟩
      ⟨name, source', placement'.slots, placement'.keywords⟩ := {
    name := rfl
    source := trivial
    slots := by
      rw [h.slots, List.forall₂_same]
      exact fun slot _ ↦ hoperand slot
    keyword := fun key ↦ by
      rw [h.keyword key]
      exact hoperand _ }
  refine applyRule_compares hcall (.refl ordering) cx cx.strict cx.strict ?_
  rw [viewOf_written, viewOf_written]
  exact viewOf_alike (h.map Operand.source) kind

section Spelling

variable {cx : Context} {name : String} {rules : List Rule}
  (hrules : cx.dialect.rulesFor name = some rules) {args args' : List Host.Expr}
  {named named' : List (String × Host.Expr)} (hnodup : (named.map Prod.fst).Nodup)
  (hkind : ∀ found, resolveRule args named rules = some found → found.1.kind ≠ .combine)
  (h : SpellsOut rules args named args' named')

include hrules hnodup hkind h

/-- A call becomes the same in all of its spellings, unless the rule is one for vectors. -/
theorem lower_spelled :
    (lower cx (.call name args named)).toExcept =
      (lower cx (.call name args' named')).toExcept := by
  refine Compares.toExcept_eq ?_
  rw [lower, lower, lowerWith, lowerWith, lowerOperand_call, lowerOperand_call]
  dsimp only
  rw [lowerCall, lowerCall, hrules]
  dsimp only
  simp only [resolveRule_map, countedArguments_map]
  have hplaces := h.place hnodup
  rcases SpellsOut.resolveRule_alike fun rule hrule ↦ (hplaces rule hrule).1 with
    ⟨hnone, hnone'⟩ | ⟨rule, hrule, hfound, hfound'⟩
  · rw [hnone, hnone', h.countedArguments_eq hnodup]
    exact .fail _
  · rw [hfound, hfound']
    refine .andThen (.warn trivial) fun _ ↦ ?_
    have halike := (hplaces rule hrule).2 (hkind _ hfound)
    exact applyRule_alike cx _ name _ _ (halike.map _) rule.kind

end Spelling

/-- Named arguments are placed like the host does. For every rule the loop over the slots of a call
ends. An argument with the name of a parameter is then in the slot of the parameter, and the
positional ones are in the others in their order. There are gaps only below a named argument, and
never at the end. Every named argument is in one place: in its slot, among the keywords, among the
appended arguments of a vector, or among the ignored ones. So a call by any other rule than that for
vectors becomes the same SQL, or fails with the same error, if the named arguments are in another
order, and if positional ones from the left on are given by the names of their parameters. The names
are those of all rules of the function, and in the built-in dialects these agree. -/
theorem lower_named_arguments {args : List Host.Expr} {named : List (String × Host.Expr)}
    (hnodup : (named.map Prod.fst).Nodup) :
    (∀ rule : Rule, rule.Places args named (rule.place args named)) ∧
      (∀ (cx : Context) (name : String) (rules : List Rule),
        cx.dialect.rulesFor name = some rules →
        (∀ found, resolveRule args named rules = some found → found.1.kind ≠ .combine) →
        ∀ args' named', SpellsOut rules args named args' named' →
          (lower cx (.call name args named)).toExcept =
            (lower cx (.call name args' named')).toExcept) ∧
      ∀ d ∈ Dialect.builtin, ∀ (name : String) (rules : List Rule), d.rulesFor name = some rules →
        ∀ rule ∈ rules, ∀ args' named', SpellsOut [rule] args named args' named' →
          SpellsOut rules args named args' named' := by
  refine ⟨fun rule ↦ rule.place_places args hnodup, ?_, ?_⟩
  · intro cx name rules hrules hkind args' named' h
    exact lower_spelled hrules hnodup hkind h
  · intro d hd name rules hrules rule hrule args' named' h
    exact h.of_rule hd hrules hrule

/-- The price of two days ago, with all arguments given by name and in another order. -/
theorem lower_named_arguments_prices :
    let cx : Context := { dialect := .ansi }
    let price : Host.Expr := .symbol "price"
    let two : Host.Expr := .literal (.integer (some 2))
    let day : Host.Expr := .symbol "day"
    let named := [("order_by", day)]
    let named' := [("n", two), ("order_by", day), ("x", price)]
    (named.map Prod.fst).Nodup ∧
      (∀ rule : Rule, rule.Places [price, two] named (rule.place [price, two] named)) ∧
      (lower cx (.call "lag" [price, two] named)).toExcept =
        (lower cx (.call "lag" [] named')).toExcept ∧
      (lower cx (.call "lag" [] named')).toExcept = .ok (.window (.call "LAG"
        [.column "price", .literal (.integer (some 2))]) [] [.column "day"] none) := by
  intro cx price two day named named'
  have hnodup : (named.map Prod.fst).Nodup := by decide
  let rule : Rule := ⟨.offset "LAG", .between 1 3, ["x", "n", "default"], ["order_by"]⟩
  have hrules : cx.dialect.rulesFor "lag" = some [rule] := rfl
  have hspelled : SpellsOut [rule] [price, two] named [] named' := by
    have hprice : rule.FillsNext named "x" := ⟨0, rfl, rfl, nofun⟩
    have htwo : rule.FillsNext (("x", price) :: named) "n" :=
      ⟨1, rfl, rfl, fun earlier hearlier ↦ by
        obtain rfl : earlier = 0 := by omega
        rfl⟩
    refine .named nofun (by simpa using hprice) (.named nofun (by simpa using htwo) (.reordered ?_))
    exact .cons _ (.swap _ _ _)
  obtain ⟨hplaces, hlower, -⟩ := @lower_named_arguments [price, two] named hnodup
  have hkind : ∀ found, resolveRule [price, two] named [rule] = some found →
      found.1.kind ≠ .combine := by
    intro found hfound
    have hrule : found.1 = rule := List.mem_singleton.1 (mem_of_resolveRule hfound)
    rw [hrule]
    nofun
  exact ⟨hnodup, hplaces, hlower cx "lag" _ hrules hkind [] named' hspelled, rfl⟩

end Lowering

end SqlVerbs
