import SqlVerbs.Proofs.Local.Results

/-!
# Plain values

A value is plain if it has no dates and no `NULL` among the elements of its vectors, at any depth
of its lists. Exactly such values survive being written into an expression: a date would come back
as a string, and a vector with the single element `NULL` as `NULL`. Every local function but those
that make dates gives plain values for plain arguments, so evaluation stays among plain values.
-/

namespace SqlVerbs.Local

open Calendar (DateTime)
open Host (Expr)

mutual

/-- Is the value free of dates, and of `NULL` inside its vectors? -/
def Value.isPlain : Value → Bool
  | .atomic items => items.all (fun l ↦ !isNull l)
  | .list entries => entriesPlain entries
  | .date _ | .dateTime _ => false
  | .null => true

/-- Are all members of a list plain? -/
def Value.entriesPlain : List (String × Value) → Bool
  | [] => true
  | (_, value) :: rest => Value.isPlain value && Value.entriesPlain rest

end

mutual

/-- Is the expression free of functions that make dates, and of `NULL` inside its vectors? -/
def isPlainExpr : Expr → Bool
  | .literal _ | .symbol _ => true
  | .vector items => items.all (fun l ↦ !isNull l)
  | .call name args named =>
    !dateFunctions.contains name && arePlainExprs args && arePlainNamed named

/-- Are all of several expressions plain? -/
def arePlainExprs : List Expr → Bool
  | [] => true
  | e :: rest => isPlainExpr e && arePlainExprs rest

/-- Are all named arguments plain? -/
def arePlainNamed : List (String × Expr) → Bool
  | [] => true
  | (_, e) :: rest => isPlainExpr e && arePlainNamed rest

end

theorem entriesPlain_eq_all (entries : List (String × Value)) :
    Value.entriesPlain entries = entries.all (fun entry ↦ entry.2.isPlain) := by
  induction entries with
  | nil => rfl
  | cons entry rest ih => rw [Value.entriesPlain, ih, List.all_cons]

theorem isPlainExpr_call {name : String} {args : List Expr} {named : List (String × Expr)} :
    isPlainExpr (.call name args named) = true ↔
      name ∉ dateFunctions ∧ (∀ e ∈ args, isPlainExpr e = true) ∧
        ∀ entry ∈ named, isPlainExpr entry.2 = true := by
  have hargs : arePlainExprs args = args.all isPlainExpr := by
    induction args with
    | nil => rfl
    | cons e rest ih => rw [arePlainExprs, ih, List.all_cons]
  have hnamed : arePlainNamed named = named.all (fun entry ↦ isPlainExpr entry.2) := by
    induction named with
    | nil => rfl
    | cons entry rest ih => rw [arePlainNamed, ih, List.all_cons]
  rw [isPlainExpr, hargs, hnamed]
  simp [and_assoc]

/-! ## Vectors -/

section Vectors

variable {v : Value} {items : List Literal}

theorem isPlain_atomic : (Value.atomic items).isPlain = true ↔ ∀ l ∈ items, l ≠ .null := by
  have hnull (l : Literal) : isNull l = true ↔ l = .null := by cases l <;> simp [isNull]
  simp [Value.isPlain, hnull, ← Bool.not_eq_true]

theorem isPlain_ofLiteral (l : Literal) : (Value.ofLiteral l).isPlain = true := by
  cases l <;> rfl

theorem literals_ne_null (hv : v.isPlain = true) (h : v.literals = .ok items) :
    ∀ l ∈ items, l ≠ .null := by
  cases v with
  | atomic _ => cases h; exact isPlain_atomic.1 hv
  | null => cases h; simp
  | list _ => cases h
  | date _ => cases hv
  | dateTime _ => cases hv

end Vectors

/-! ## The local functions -/

/-- A function that makes no dates gives a plain value for plain arguments. -/
theorem callLocal_isPlain {now : DateTime} {name : String} {args : List Value}
    {named : Bindings Value} {v : Value} (hname : name ∉ dateFunctions)
    (hargs : ∀ a ∈ args, a.isPlain = true) (h : callLocal now name args named = .ok v) :
    v.isPlain = true := by
  cases callLocal_makes h with
  | vector kind ofKind known =>
    refine isPlain_atomic.2 fun l hl hnull ↦ ?_
    obtain ⟨x, hx, all, hall, hmem⟩ := known ((ofKind l hl).symm.trans (kind_eq_null.2 hnull))
    exact literals_ne_null (hargs x hx) hall .null hmem rfl
  | argument mem => exact hargs v mem
  | mapped mem read f respects =>
    rw [isPlain_atomic, List.forall_mem_map]
    intro l hl
    have hne := literals_ne_null (hargs _ mem) read l hl
    exact mt kind_eq_null.2 (respects.ne_null l (mt kind_eq_null.1 hne))
  | null => rfl
  | date _ mem | dateTime _ mem => exact absurd mem hname

/-! ## Members and elements -/

section Members

variable {v target index : Value}

theorem isPlain_of_get? {entries : Bindings Value} {name : String}
    (hentries : ∀ entry ∈ entries, entry.2.isPlain = true)
    (h : entries.get? name = some v) : v.isPlain = true :=
  hentries _ (Bindings.mem_of_get? h)

theorem isPlain_of_isMember (htarget : target.isPlain = true) (h : IsMember v target) :
    v.isPlain = true := by
  obtain ⟨entries, rfl, entry, hentry, rfl⟩ := h
  rw [Value.isPlain, entriesPlain_eq_all, List.all_eq_true] at htarget
  exact htarget entry hentry

theorem memberOf_isPlain {key : String} (htarget : target.isPlain = true)
    (h : memberOf target key = .ok v) : v.isPlain = true := by
  obtain rfl | hmember := memberOf_eq h
  · rfl
  · exact isPlain_of_isMember htarget hmember

theorem elementOf_isPlain (htarget : target.isPlain = true) (h : elementOf target index = .ok v) :
    v.isPlain = true := by
  obtain ⟨l, rfl⟩ | hmember := elementOf_eq h
  · exact isPlain_ofLiteral l
  · exact isPlain_of_isMember htarget hmember

theorem subsetItem_ne_null {items : List Literal} {position l : Literal}
    (hitems : ∀ l ∈ items, l ≠ .null) (h : subsetItem items position = .ok l) : l ≠ .null := by
  obtain hmem | rfl := subsetItem_eq h
  · exact hitems l hmem
  · exact mt kind_eq_null.2 (by simpa using kindOf_ne_null hitems)

theorem subset_isPlain (htarget : target.isPlain = true) (h : subset target index = .ok v) :
    v.isPlain = true := by
  obtain ⟨items, hitems, h⟩ := bind_eq_ok.1 h
  obtain ⟨positions, -, h⟩ := bind_eq_ok.1 h
  obtain ⟨out, hout, h⟩ := bind_eq_ok.1 h
  cases h
  have hne := literals_ne_null htarget hitems
  exact isPlain_atomic.2 (forall_mem_of_mapM (fun _ _ hl ↦ subsetItem_ne_null hne hl) hout)

end Members

end SqlVerbs.Local
