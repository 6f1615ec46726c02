import Mathlib.Data.List.Nodup
import SqlVerbs.Bindings

/-!
# Names and values of entries

What reading and writing entries does to their names, and when a list of pairs is already in the
form of entries.
-/

namespace SqlVerbs

theorem mem_dedup {α : Type} [BEq α] [LawfulBEq α] {items : List α} {a : α} :
    a ∈ dedup items ↔ a ∈ items := by
  have hseen (seen : List α) : a ∈ items.foldl
      (fun seen item ↦ if seen.contains item then seen else seen ++ [item]) seen ↔
        a ∈ seen ∨ a ∈ items := by
    induction items generalizing seen with
    | nil => simp
    | cons item items ih =>
      rw [List.foldl_cons, ih, List.mem_cons]
      split
      · rename_i hitem
        rw [List.contains_iff_mem] at hitem
        grind
      · rw [List.mem_append, List.mem_singleton, or_assoc]
  exact (hseen []).trans (by simp)

namespace Bindings

variable {α β : Type}

@[simp] theorem names_cons (key : String) (value : α) (rest : Bindings α) :
    names ((key, value) :: rest) = key :: names rest := rfl

@[simp] theorem mapValues_insert (f : α → β) (entries : Bindings α) (name : String) (value : α) :
    mapValues f (insert entries name value) = insert (mapValues f entries) name (f value) := by
  induction entries with
  | nil => rfl
  | cons entry rest ih =>
    obtain ⟨key, old⟩ := entry
    by_cases h : key = name
    · simp [insert, mapValues, h]
    · simpa [insert, mapValues, h] using ih

@[simp] theorem get?_mapValues (f : α → β) (entries : Bindings α) (name : String) :
    get? (mapValues f entries) name = (get? entries name).map f := by
  induction entries with
  | nil => rfl
  | cons entry rest ih =>
    obtain ⟨key, old⟩ := entry
    by_cases h : key = name
    · simp [mapValues, get?, h]
    · simpa [mapValues, get?, h] using ih

@[simp] theorem names_mapValues (f : α → β) (entries : Bindings α) :
    names (mapValues f entries) = names entries := by
  simp [names, mapValues]

theorem get?_eq_none {entries : Bindings α} {name : String} :
    get? entries name = none ↔ name ∉ names entries := by
  induction entries with
  | nil => simp [names]
  | cons entry rest ih =>
    obtain ⟨key, old⟩ := entry
    by_cases h : key = name
    · simp [get?, names, h]
    · simpa [get?, names, h, Ne.symm h] using ih

theorem get?_isSome {entries : Bindings α} {name : String} :
    (get? entries name).isSome = true ↔ name ∈ names entries := by
  rw [Option.isSome_iff_ne_none, ne_eq, get?_eq_none, not_not]

theorem get?_append (entries more : Bindings α) (name : String) :
    get? (entries ++ more) name = (get? entries name).or (get? more name) := by
  induction entries with
  | nil => rfl
  | cons entry rest ih =>
    obtain ⟨key, old⟩ := entry
    by_cases h : key = name
    · simp [get?, h]
    · simpa [get?, h] using ih

theorem get?_filter {entries : Bindings α} {kept : String → Bool} {name : String}
    (h : kept name = true) :
    get? (entries.filter fun entry ↦ kept entry.1) name = get? entries name := by
  induction entries with
  | nil => rfl
  | cons entry rest ih =>
    obtain ⟨key, old⟩ := entry
    by_cases hkey : key = name
    · simp [get?, hkey, h]
    · by_cases hkept : kept key = true <;> simp [get?, hkey, hkept, ih]

theorem mem_of_get? {entries : Bindings α} {name : String} {value : α}
    (h : get? entries name = some value) : (name, value) ∈ entries := by
  induction entries with
  | nil => cases h
  | cons entry rest ih =>
    obtain ⟨key, old⟩ := entry
    rw [get?] at h
    split at h
    · rename_i hkey
      cases h
      exact hkey ▸ List.mem_cons_self
    · exact List.mem_cons_of_mem _ (ih h)

theorem get?_of_mem {entries : Bindings α} (hnodup : (names entries).Nodup)
    {entry : String × α} (h : entry ∈ entries) : get? entries entry.1 = some entry.2 := by
  induction entries with
  | nil => cases h
  | cons first rest ih =>
    obtain ⟨key, value⟩ := first
    rw [names_cons, List.nodup_cons] at hnodup
    rcases List.mem_cons.1 h with rfl | hrest
    · simp [get?]
    · have hne : key ≠ entry.1 := by
        rintro rfl
        exact hnodup.1 (List.mem_map_of_mem hrest)
      rw [get?, if_neg hne, ih hnodup.2 hrest]

/-- A name that is new goes to the end. -/
theorem insert_of_notMem {entries : Bindings α} {name : String} (h : name ∉ names entries)
    (value : α) : insert entries name value = entries ++ [(name, value)] := by
  induction entries with
  | nil => rfl
  | cons entry rest ih =>
    obtain ⟨key, old⟩ := entry
    simp only [names, List.map_cons, List.mem_cons, not_or] at h
    rw [insert, if_neg (Ne.symm h.1), ih h.2, List.cons_append]

theorem names_insert (entries : Bindings α) (name : String) (value : α) :
    names (insert entries name value) =
      if name ∈ names entries then names entries else names entries ++ [name] := by
  induction entries with
  | nil => rfl
  | cons entry rest ih =>
    obtain ⟨key, old⟩ := entry
    by_cases h : key = name
    · simp [insert, h]
    · simp only [insert, if_neg h, names_cons, ih, List.mem_cons, Ne.symm h, false_or]
      split <;> rfl

theorem nodup_insert {entries : Bindings α} (h : (names entries).Nodup) (name : String)
    (value : α) : (names (insert entries name value)).Nodup := by
  rw [names_insert]
  split
  · exact h
  · rename_i hname
    exact h.append (List.nodup_singleton name) (by simpa using hname)

/-- Pairs with different names are kept as they are. -/
theorem insertAll_of_nodup (entries : Bindings α) {pairs : List (String × α)}
    (h : (names entries ++ pairs.map Prod.fst).Nodup) :
    insertAll entries pairs = entries ++ pairs := by
  induction pairs generalizing entries with
  | nil => simp [insertAll]
  | cons pair pairs ih =>
    have hnotMem : pair.1 ∉ names entries := by
      intro hmem
      exact (List.nodup_append.1 h).2.2 pair.1 hmem pair.1 (by simp) rfl
    rw [insertAll, List.foldl_cons, insert_of_notMem hnotMem, ← insertAll, ih]
    · simp
    · simpa [names] using h

theorem ofPairs_of_nodup {pairs : List (String × α)} (h : (pairs.map Prod.fst).Nodup) :
    ofPairs pairs = pairs := by
  simpa [ofPairs] using insertAll_of_nodup [] (by simpa [names] using h)

theorem insert_of_get? {entries : Bindings α} {name : String} {value : α}
    (h : get? entries name = some value) : insert entries name value = entries := by
  induction entries with
  | nil => cases h
  | cons entry rest ih =>
    obtain ⟨key, old⟩ := entry
    rw [get?] at h
    rw [insert]
    split at h
    · rename_i hkey
      cases h
      rw [if_pos hkey]
    · rename_i hkey
      rw [if_neg hkey, ih h]

theorem mem_of_mem_insert {entries : Bindings α} {name : String} {value : α} {entry : String × α}
    (h : entry ∈ insert entries name value) : entry ∈ entries ∨ entry = (name, value) := by
  induction entries with
  | nil => exact .inr (List.mem_singleton.1 h)
  | cons first rest ih =>
    obtain ⟨key, old⟩ := first
    rw [insert] at h
    split at h
    · rename_i hkey
      rcases List.mem_cons.1 h with rfl | hrest
      · exact .inr (by rw [hkey])
      · exact .inl (List.mem_cons_of_mem _ hrest)
    · rcases List.mem_cons.1 h with rfl | hrest
      · exact .inl List.mem_cons_self
      · exact (ih hrest).imp_left (List.mem_cons_of_mem _)

theorem mem_of_mem_insertAll {entries : Bindings α} {pairs : List (String × α)}
    {entry : String × α} (h : entry ∈ insertAll entries pairs) :
    entry ∈ entries ∨ entry ∈ pairs := by
  induction pairs generalizing entries with
  | nil => exact .inl h
  | cons pair pairs ih =>
    rcases ih h with hinserted | hlater
    · rcases mem_of_mem_insert hinserted with hold | rfl
      · exact .inl hold
      · exact .inr List.mem_cons_self
    · exact .inr (List.mem_cons_of_mem _ hlater)

theorem mem_of_mem_ofPairs {pairs : List (String × α)} {entry : String × α}
    (h : entry ∈ ofPairs pairs) : entry ∈ pairs :=
  (mem_of_mem_insertAll h).resolve_left List.not_mem_nil

theorem names_insertAll (entries : Bindings α) (pairs : List (String × α)) :
    names (insertAll entries pairs) = (pairs.map Prod.fst).foldl
      (fun seen name ↦ if seen.contains name then seen else seen ++ [name]) (names entries) := by
  induction pairs generalizing entries with
  | nil => rfl
  | cons pair pairs ih =>
    rw [insertAll, List.foldl_cons, ← insertAll, ih, names_insert]
    simp

/-- The names of pairs that are read as entries, each of them once. -/
theorem names_ofPairs (pairs : List (String × α)) :
    names (ofPairs pairs) = dedup (pairs.map Prod.fst) := names_insertAll [] pairs

theorem nodup_insertAll {entries : Bindings α} (h : (names entries).Nodup)
    (pairs : List (String × α)) : (names (insertAll entries pairs)).Nodup := by
  induction pairs generalizing entries with
  | nil => exact h
  | cons pair pairs ih => exact ih (nodup_insert h pair.1 pair.2)

theorem nodup_ofPairs (pairs : List (String × α)) : (names (ofPairs pairs)).Nodup := by
  have hnil : (names ([] : Bindings α)).Nodup := List.nodup_nil
  exact nodup_insertAll hnil pairs

/-- A name with one value has it, however often the pairs repeat it. -/
theorem get?_ofPairs {pairs : List (String × α)} {name : String} {value : α}
    (hmem : (name, value) ∈ pairs) (hone : ∀ pair ∈ pairs, pair.1 = name → pair.2 = value) :
    get? (ofPairs pairs) name = some value := by
  have hname : name ∈ names (ofPairs pairs) := by
    rw [names_ofPairs, mem_dedup]
    exact List.mem_map_of_mem hmem
  obtain ⟨found, hfound⟩ := Option.isSome_iff_exists.1 (get?_isSome.2 hname)
  obtain rfl : found = value := hone _ (mem_of_mem_ofPairs (mem_of_get? hfound)) rfl
  exact hfound

/-! ## Picking entries -/

/-- Some of the entries under new names, given as pairs of new and old name. -/
def pick (entries : Bindings α) (columns : List (String × String)) : Bindings α :=
  columns.filterMap (fun column ↦ (entries.get? column.2).map (fun value ↦ (column.1, value)))

theorem pick_append (entries : Bindings α) (columns more : List (String × String)) :
    entries.pick (columns ++ more) = entries.pick columns ++ entries.pick more :=
  List.filterMap_append

theorem pick_cons {entries : Bindings α} {column : String × String} {value : α}
    (h : entries.get? column.2 = some value) (rest : List (String × String)) :
    entries.pick (column :: rest) = (column.1, value) :: entries.pick rest := by
  simp [pick, h]

theorem mapValues_ofPairs (f : α → β) (pairs : List (String × α)) :
    mapValues f (ofPairs pairs) = ofPairs (mapValues f pairs) := by
  have hall (entries : Bindings α) :
      mapValues f (insertAll entries pairs) = insertAll (mapValues f entries) (mapValues f pairs) := by
    induction pairs generalizing entries with
    | nil => rfl
    | cons pair pairs ih =>
      calc mapValues f (insertAll (insert entries pair.1 pair.2) pairs)
          = insertAll (mapValues f (insert entries pair.1 pair.2)) (mapValues f pairs) := ih _
        _ = insertAll (mapValues f entries) (mapValues f (pair :: pairs)) := by
          rw [mapValues_insert]
          rfl
  exact hall []

/-- Of several columns that are picked under one name, the last one is left. -/
theorem get?_ofPairs_pick {entries : Bindings α} {columns : List (String × String)}
    (hknown : ∀ column ∈ columns, column.2 ∈ names entries) (name : String) :
    (ofPairs (entries.pick columns)).get? name =
      ((ofPairs columns).get? name).bind entries.get? := by
  cases entries with
  | nil =>
    have hnone : columns = [] := List.eq_nil_iff_forall_not_mem.2 fun column hcolumn ↦
      List.not_mem_nil (hknown column hcolumn)
    rw [hnone]
    rfl
  | cons first rest =>
    let value (old : String) : α := (get? (first :: rest) old).getD first.2
    have hvalue (old : String) (hold : old ∈ names (first :: rest)) :
        get? (first :: rest) old = some (value old) := by
      obtain ⟨a, ha⟩ := Option.isSome_iff_exists.1 (get?_isSome.2 hold)
      rw [ha]
      simp [value, ha]
    have hpick : pick (first :: rest) columns = mapValues value columns := by
      rw [pick, mapValues, ← List.filterMap_eq_map]
      apply List.filterMap_congr
      intro column hcolumn
      rw [hvalue column.2 (hknown column hcolumn)]
      rfl
    rw [hpick, ← mapValues_ofPairs, get?_mapValues]
    cases hold : (ofPairs columns).get? name with
    | none => rfl
    | some old =>
      have hmem := hknown _ (mem_of_mem_ofPairs (mem_of_get? hold))
      rw [Option.map_some, Option.bind_some, hvalue old hmem]

theorem mapValues_pick (f : α → β) (entries : Bindings α) (columns : List (String × String)) :
    mapValues f (entries.pick columns) = (mapValues f entries).pick columns := by
  rw [pick, mapValues, List.map_filterMap, pick]
  refine List.filterMap_congr (fun column _ ↦ ?_)
  rw [get?_mapValues, Option.map_map, Option.map_map]
  rfl

theorem names_pick {entries : Bindings α} {columns : List (String × String)}
    (h : ∀ column ∈ columns, column.2 ∈ names entries) :
    names (entries.pick columns) = columns.map Prod.fst := by
  induction columns with
  | nil => rfl
  | cons column rest ih =>
    rw [List.forall_mem_cons] at h
    obtain ⟨value, hvalue⟩ := Option.isSome_iff_exists.1 (get?_isSome.2 h.1)
    rw [pick_cons hvalue, names_cons, ih h.2, List.map_cons]

/-- Picking all entries under new names. -/
theorem pick_names {entries : Bindings α} (h : (names entries).Nodup) (f : String → String) :
    entries.pick ((names entries).map (fun name ↦ (f name, name))) =
      entries.map (fun entry ↦ (f entry.1, entry.2)) := by
  rw [pick, names, List.map_map, List.filterMap_map, ← List.filterMap_eq_map]
  refine List.filterMap_congr (fun entry hentry ↦ ?_)
  simp [get?_of_mem h hentry]

/-- Entries under their own names, in some order. -/
def same (keys : List String) : List (String × String) := keys.map (fun key ↦ (key, key))

theorem pick_same_cons {entries : Bindings α} {key : String} {value : α}
    (h : entries.get? key = some value) (keys : List String) :
    entries.pick (same (key :: keys)) = (key, value) :: entries.pick (same keys) :=
  pick_cons h (same keys)

theorem get?_pick_same {entries : Bindings α} {keys : List String} {name : String} {value : α}
    (hvalue : entries.get? name = some value) (h : name ∈ keys) :
    (entries.pick (same keys)).get? name = some value := by
  induction keys with
  | nil => cases h
  | cons key keys ih =>
    by_cases hkey : key = name
    · rw [pick_same_cons (hkey ▸ hvalue), get?, if_pos hkey]
    · have hrest := ih ((List.mem_cons.1 h).resolve_left (Ne.symm hkey))
      cases hother : entries.get? key with
      | none => simpa [pick, same, hother] using hrest
      | some other => rw [pick_same_cons hother, get?, if_neg hkey, hrest]

theorem insertAll_pick_same {entries : Bindings α} {seen keys : List String}
    (hseen : ∀ key ∈ seen, key ∈ names entries) (hkeys : ∀ key ∈ keys, key ∈ names entries) :
    insertAll (entries.pick (same seen)) (entries.pick (same keys)) =
      entries.pick (same (keys.foldl
        (fun seen key ↦ if seen.contains key then seen else seen ++ [key]) seen)) := by
  induction keys generalizing seen with
  | nil => rfl
  | cons key keys ih =>
    rw [List.forall_mem_cons] at hkeys
    obtain ⟨value, hvalue⟩ := Option.isSome_iff_exists.1 (get?_isSome.2 hkeys.1)
    have hnames : names (entries.pick (same seen)) = seen := by
      rw [names_pick (by simpa [same] using hseen)]
      simp [same, Function.comp_def]
    rw [pick_same_cons hvalue, insertAll, List.foldl_cons, ← insertAll, List.foldl_cons]
    split
    · rename_i hmem
      rw [insert_of_get? (get?_pick_same hvalue (by simpa using hmem)), ih hseen hkeys.2]
    · rename_i hmem
      have hnew : entries.pick (same seen) ++ [(key, value)] = entries.pick (same (seen ++ [key])) := by
        rw [same, same, List.map_append, pick_append, ← same]
        exact congrArg _ (pick_same_cons hvalue []).symm
      rw [insert_of_notMem (by simpa [hnames] using hmem), hnew, ih _ hkeys.2]
      simpa [or_imp, forall_and] using ⟨hseen, hkeys.1⟩

/-- Pairs of repeated names, and others that do not clash with them. -/
theorem ofPairs_pick {entries : Bindings α} {keys : List String}
    {columns : List (String × String)} (hkeys : ∀ key ∈ keys, key ∈ names entries)
    (hcolumns : ∀ column ∈ columns, column.2 ∈ names entries)
    (hnodup : ((same (dedup keys) ++ columns).map Prod.fst).Nodup) :
    ofPairs (entries.pick (same keys) ++ entries.pick columns) =
      entries.pick (same (dedup keys) ++ columns) := by
  have hdedup : ∀ column ∈ same (dedup keys), column.2 ∈ names entries := by
    simpa [same, mem_dedup] using hkeys
  have hsame : insertAll [] (entries.pick (same keys)) = entries.pick (same (dedup keys)) :=
    insertAll_pick_same (List.forall_mem_nil _) hkeys
  have hdistinct : (names (entries.pick (same (dedup keys))) ++
      (entries.pick columns).map Prod.fst).Nodup := by
    have hothers : (entries.pick columns).map Prod.fst = columns.map Prod.fst :=
      names_pick hcolumns
    rwa [names_pick hdedup, hothers, ← List.map_append]
  rw [ofPairs, insertAll, List.foldl_append, ← insertAll, ← insertAll, hsame, pick_append,
    insertAll_of_nodup _ hdistinct]

end Bindings

end SqlVerbs
