import SqlVerbs.Lowering.Placement
import SqlVerbs.Proofs.Bindings

/-!
# Placed arguments

Every argument that a rule finds in its place is one of the call. Where an argument is placed, and
which rule is chosen, does not depend on what the arguments are.
-/

namespace SqlVerbs

/-! ## Arguments in their places -/

section Placement

variable {α : Type} {p : α → Prop}

theorem fillSlots_forall {byName : Nat → Option α} (hbyName : ∀ i, ∀ a ∈ byName i, p a)
    {indices : List Nat} {positional : List α} (h : ∀ a ∈ positional, p a) :
    ∀ slot ∈ fillSlots byName indices positional, ∀ a ∈ slot, p a := by
  fun_induction fillSlots byName indices positional with
  | case1 positional => simpa using h
  | case2 index later positional value hvalue ih =>
    refine List.forall_mem_cons.2 ⟨fun a ha ↦ ?_, ih h⟩
    exact hbyName index a (hvalue.trans ha)
  | case3 index later _ next rest ih =>
    rw [List.forall_mem_cons] at h
    exact List.forall_mem_cons.2 ⟨by simpa using h.1, ih h.2⟩
  | case4 index later _ ih => exact List.forall_mem_cons.2 ⟨by simp, ih h⟩

variable {args : List α} {named : List (String × α)} (hargs : ∀ a ∈ args, p a)
  (hnamed : ∀ entry ∈ named, p entry.2)

include hnamed

theorem withRole_forall (rule : Rule) (role : NamedRole) :
    ∀ entry ∈ rule.withRole role named, p entry.2 :=
  fun entry hentry ↦ hnamed entry (List.mem_of_mem_filter hentry)

include hargs

theorem place_forall (rule : Rule) :
    (∀ slot ∈ (rule.place args named).slots, ∀ a ∈ slot, p a) ∧
      ∀ entry ∈ (rule.place args named).keywords, p entry.2 := by
  have hbyName : ∀ i, ∀ a ∈ rule.namedFor named i, p a := by
    intro i a ha
    obtain ⟨entry, hentry, rfl⟩ := Option.map_eq_some_iff.1 ha
    exact withRole_forall hnamed rule _ entry (List.mem_of_getLast? hentry)
  refine ⟨fun slot hslot ↦ ?_, withRole_forall hnamed rule .keyword⟩
  rcases List.mem_append.1 hslot with hslot | hslot
  · exact fillSlots_forall hbyName hargs slot hslot
  · obtain ⟨entry, hentry, rfl⟩ := List.mem_map.1 hslot
    simpa using withRole_forall hnamed rule .appended entry hentry

theorem resolveRule_forall {rules : List Rule} {rule : Rule} {placement : Placement α}
    (h : resolveRule args named rules = some (rule, placement)) :
    (∀ slot ∈ placement.slots, ∀ a ∈ slot, p a) ∧ ∀ entry ∈ placement.keywords, p entry.2 := by
  induction rules with
  | nil => cases h
  | cons first later ih =>
    simp only [resolveRule] at h
    split at h
    · cases h
      exact place_forall hargs hnamed rule
    · exact ih h

end Placement

theorem mem_of_resolveRule {α : Type} {args : List α} {named : List (String × α)}
    {rules : List Rule} {rule : Rule} {placement : Placement α}
    (h : resolveRule args named rules = some (rule, placement)) : rule ∈ rules := by
  induction rules with
  | nil => cases h
  | cons first later ih =>
    simp only [resolveRule] at h
    split at h
    · cases h
      exact List.mem_cons_self
    · exact List.mem_cons_of_mem _ (ih h)

/-! ## Other arguments in the same places -/

section Placement

variable {α β : Type} (f : α → β)

/-- The placement with something else for each argument. -/
def Placement.map (placement : Placement α) : Placement β where
  slots := placement.slots.map (Option.map f)
  keywords := Bindings.mapValues f placement.keywords
  ignored := placement.ignored

theorem fillSlots_map (byName : Nat → Option α) (indices : List Nat) (positional : List α) :
    fillSlots (fun i ↦ (byName i).map f) indices (positional.map f) =
      (fillSlots byName indices positional).map (Option.map f) := by
  fun_induction fillSlots byName indices positional with
  | case1 positional => simp [fillSlots]
  | case2 index later positional value hvalue ih => simp [fillSlots, hvalue, ih]
  | case3 index later next rest hnone ih => simp [fillSlots, hnone, ih]
  | case4 index later hnone ih => simpa [fillSlots, hnone] using ih

namespace Rule

variable (rule : Rule) (args : List α) (named : List (String × α))

theorem withRole_map (role : NamedRole) :
    rule.withRole role (Bindings.mapValues f named) =
      Bindings.mapValues f (rule.withRole role named) := by
  simp [withRole, Bindings.mapValues, List.filter_map, Function.comp_def]

theorem namedSlots_map : rule.namedSlots (Bindings.mapValues f named) = rule.namedSlots named := by
  simp [namedSlots, Bindings.mapValues, List.foldl_map]

/-- Where an argument is placed does not depend on what it is. -/
theorem place_map :
    rule.place (args.map f) (Bindings.mapValues f named) = (rule.place args named).map f := by
  have hnamed : rule.namedFor (Bindings.mapValues f named) =
      fun i ↦ (rule.namedFor named i).map f := by
    funext i
    rw [namedFor, withRole_map]
    simp [namedFor, Bindings.mapValues, Function.comp_def]
  simp only [place, Placement.map, hnamed, namedSlots_map, fillSlots_map, withRole_map]
  simp [Bindings.mapValues, Function.comp_def]

end Rule

theorem resolveRule_map (args : List α) (named : List (String × α)) (rules : List Rule) :
    resolveRule (args.map f) (Bindings.mapValues f named) rules =
      (resolveRule args named rules).map (fun found ↦ (found.1, found.2.map f)) := by
  induction rules with
  | nil => rfl
  | cons rule later ih =>
    simp only [resolveRule, rule.place_map, ih]
    have hlength : ((rule.place args named).map f).slots.length =
        (rule.place args named).slots.length := by
      simp [Placement.map]
    rw [hlength]
    split <;> rfl

theorem countedArguments_map (args : List α) (named : List (String × α)) (rules : List Rule) :
    countedArguments (args.map f) (Bindings.mapValues f named) rules =
      countedArguments args named rules := by
  cases rules with
  | nil => simp [countedArguments]
  | cons rule later =>
    rw [countedArguments, rule.place_map]
    simp [Placement.map, countedArguments]

theorem Bindings.mapValues_mapValues {γ : Type} (g : β → γ) (entries : Bindings α) :
    Bindings.mapValues g (Bindings.mapValues f entries) =
      Bindings.mapValues (fun a ↦ g (f a)) entries := by
  simp [Bindings.mapValues]

theorem Placement.map_map {γ : Type} (g : β → γ) (placement : Placement α) :
    (placement.map f).map g = placement.map fun a ↦ g (f a) := by
  simp [Placement.map, Bindings.mapValues_mapValues, Function.comp_def]

theorem Placement.map_id (placement : Placement α) : (placement.map fun a ↦ a) = placement := by
  simp [Placement.map, Bindings.mapValues]

/-- The argument in a slot, if there is one. -/
def Placement.slot? (placement : Placement α) (index : Nat) : Option α :=
  (placement.slots[index]?).join

theorem Placement.slot?_map (placement : Placement α) (index : Nat) :
    (placement.map f).slot? index = (placement.slot? index).map f := by
  simp only [Placement.slot?, Placement.map, List.getElem?_map]
  cases placement.slots[index]? <;> rfl

end Placement

end SqlVerbs
