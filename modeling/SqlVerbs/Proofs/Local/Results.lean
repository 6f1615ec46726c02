import SqlVerbs.Proofs.Local.Names

/-!
# What local functions return

A local function returns a new vector whose elements have one kind, one of its arguments, the
elements of an argument one by one, `NULL`, or a date. What is worth knowing about the values of
all functions follows from these few ways; only this module looks into the table of functions.
-/

namespace SqlVerbs.Local

open Calendar (Date DateTime)

/-- The functions that make dates. -/
def dateFunctions : List String := ["as.Date", "Sys.Date", "Sys.time"]

/-- Does a function on literals keep away from `NULL`, and give one kind for each kind? -/
structure RespectsKinds (f : Literal → Literal) : Prop where
  ne_null : ∀ l, l.kind ≠ .null → (f l).kind ≠ .null
  congr : ∀ a b, a.kind = b.kind → (f a).kind = (f b).kind

/-- The ways in which a local function comes by its result. -/
inductive Makes (name : String) (args : List Value) : Value → Prop where
  /-- A vector of one kind. It is that of `NULL` only if an argument has such an element. -/
  | vector {items : List Literal} (kind : Kind) (ofKind : ∀ l ∈ items, l.kind = kind)
      (known : kind = .null → ∃ x ∈ args, ∃ all, x.literals = .ok all ∧ .null ∈ all) :
      Makes name args (.atomic items)
  | argument {x : Value} (mem : x ∈ args) : Makes name args x
  /-- The elements of an argument, one by one. -/
  | mapped {x : Value} {items : List Literal} (mem : x ∈ args) (read : x.literals = .ok items)
      (f : Literal → Literal) (respects : RespectsKinds f) :
      Makes name args (.atomic (items.map f))
  | null : Makes name args .null
  | date (d : Date) (mem : name ∈ dateFunctions) : Makes name args (.date d)
  | dateTime (t : DateTime) (mem : name ∈ dateFunctions) : Makes name args (.dateTime t)

/-! ## Kinds of elements -/

section Kinds

variable {kind : Kind} {items : List Literal}

theorem kind_eq_null {l : Literal} : l.kind = .null ↔ l = .null := by
  cases l <;> simp [Literal.kind]

theorem join_ne_null {a b : Kind} (ha : a ≠ .null) : a.join b ≠ .null := by
  unfold Kind.join
  split
  · rename_i hrank
    rintro rfl
    exact absurd hrank (Nat.not_lt_zero _)
  · exact ha

@[simp] theorem join_self (kind : Kind) : kind.join kind = kind := by
  unfold Kind.join
  split <;> rfl

/-- Without `NULL` among the elements, their kind is the kind of something. -/
theorem kindOf_ne_null (h : ∀ l ∈ items, l ≠ .null) : kindOf items ≠ .null := by
  have hjoin (rest : List Literal) (kind : Kind) (hkind : kind ≠ .null) :
      rest.foldl (fun acc l ↦ acc.join l.kind) kind ≠ .null := by
    induction rest generalizing kind with
    | nil => exact hkind
    | cons l rest ih =>
      exact ih _ (join_ne_null hkind)
  cases items with
  | nil => exact Kind.noConfusion
  | cons first rest =>
    exact hjoin rest first.kind (mt kind_eq_null.1 (h first List.mem_cons_self))

/-- A vector whose elements have a kind. -/
def OfKind (kind : Kind) (v : Value) : Prop :=
  ∃ items, v = .atomic items ∧ ∀ l ∈ items, l.kind = kind

theorem ofKind_single {l : Literal} (h : l.kind = kind) : OfKind kind (.atomic [l]) :=
  ⟨[l], rfl, by simpa using h⟩

theorem ofKind_map {α : Type} {inputs : List α} {f : α → Literal} (h : ∀ a, (f a).kind = kind) :
    OfKind kind (.atomic (inputs.map f)) :=
  ⟨_, rfl, List.forall_mem_map.2 fun a _ ↦ h a⟩

/-- What each result of a list of computations has, all have. -/
theorem forall_mem_of_mapM {ε α β : Type} {p : β → Prop} {inputs : List α} {f : α → Except ε β}
    {results : List β} (hf : ∀ a b, f a = .ok b → p b) (h : inputs.mapM f = .ok results) :
    ∀ b ∈ results, p b := by
  induction inputs generalizing results with
  | nil => cases h; simp
  | cons a rest ih =>
    rw [List.mapM_cons] at h
    obtain ⟨b, hb, h⟩ := bind_eq_ok.1 h
    obtain ⟨bs, hbs, h⟩ := bind_eq_ok.1 h
    cases h
    exact List.forall_mem_cons.2 ⟨hf a b hb, ih hbs⟩

theorem ofKind_mapM {α : Type} {inputs : List α} {f : α → Except Reason Literal}
    (hf : ∀ a l, f a = .ok l → l.kind = kind) (h : inputs.mapM f = .ok items) :
    OfKind kind (.atomic items) :=
  ⟨items, rfl, forall_mem_of_mapM hf h⟩

variable {name : String} {args : List Value} {v : Value}

theorem makes_of_ofKind (h : OfKind kind v) (hkind : kind ≠ .null) :
    Makes name args v := by
  obtain ⟨items, rfl, hitems⟩ := h
  exact .vector kind hitems fun hnull ↦ absurd hnull hkind

theorem makes_ofLiteral (l : Literal) : Makes name args (.ofLiteral l) := by
  cases l with
  | null => exact .null
  | _ => exact makes_of_ofKind (ofKind_single rfl) nofun

end Kinds

/-! ## The local functions -/

section Functions

variable {name : String} {args : List Value} {v x y z : Value}

theorem mapDouble_ofKind {f : Float → Float} (h : mapDouble f x = .ok v) :
    OfKind .double v := by
  obtain ⟨items, -, h⟩ := bind_eq_ok.1 h
  cases h
  exact ofKind_map fun _ ↦ rfl

theorem mapText_ofKind {f : String → Option String} (h : mapText f x = .ok v) :
    OfKind .string v := by
  obtain ⟨items, -, h⟩ := bind_eq_ok.1 h
  cases h
  exact ofKind_map fun _ ↦ rfl

theorem characterCount_ofKind (h : characterCount x = .ok v) : OfKind .integer v := by
  obtain ⟨items, -, h⟩ := bind_eq_ok.1 h
  cases h
  exact ofKind_map fun _ ↦ rfl

theorem castAll_ofKind (kind : Kind) {f : Literal → Literal} (hf : ∀ l, (f l).kind = kind)
    (h : castAll f x = .ok v) : OfKind kind v := by
  obtain ⟨items, -, h⟩ := bind_eq_ok.1 h
  cases h
  exact ofKind_map hf

theorem kind_castLogical (l : Literal) : (castLogical l).kind = .logical := by
  unfold castLogical
  repeat' split
  all_goals rfl

theorem negation_ofKind (h : negation x = .ok v) : OfKind .logical v := by
  obtain ⟨items, -, h⟩ := bind_eq_ok.1 h
  obtain ⟨out, hout, h⟩ := bind_eq_ok.1 h
  cases h
  refine ofKind_mapM (fun l b hb ↦ ?_) hout
  obtain ⟨_, -, hb⟩ := bind_eq_ok.1 hb
  cases hb
  rfl

theorem absolute_ofKind (h : absolute x = .ok v) : OfKind .integer v ∨ OfKind .double v := by
  obtain ⟨items, -, h⟩ := bind_eq_ok.1 h
  split at h
  · cases h
    exact .inl (ofKind_map fun _ ↦ rfl)
  · exact .inr (mapDouble_ofKind h)

theorem logarithm_ofKind (h : logarithm x y = .ok v) : OfKind .double v := by
  obtain ⟨base, -, h⟩ := bind_eq_ok.1 h
  exact mapDouble_ofKind h

theorem round_eq_or_ofKind {digits : Float} (h : round x digits = .ok v) :
    v = x ∨ OfKind .double v := by
  obtain ⟨items, -, h⟩ := bind_eq_ok.1 h
  split at h
  · cases h
    exact .inl rfl
  · exact .inr (mapDouble_ofKind h)

theorem sequence_ofKind (h : sequence x y = .ok v) : OfKind .integer v ∨ OfKind .double v := by
  obtain ⟨a, -, h⟩ := bind_eq_ok.1 h
  obtain ⟨b, -, h⟩ := bind_eq_ok.1 h
  split at h
  · cases h
  · dsimp only at h
    split at h
    · cases h
    · cases h
      unfold sequenceItems
      split
      · exact .inl (ofKind_map fun _ ↦ rfl)
      · exact .inr (ofKind_map fun _ ↦ rfl)

theorem sequenceOfLength_ofKind (h : sequenceOfLength x = .ok v) :
    OfKind .integer v ∨ OfKind .double v := by
  obtain ⟨n, -, h⟩ := bind_eq_ok.1 h
  dsimp only at h
  split at h
  · cases h
  · split at h
    · cases h
      exact .inl ⟨[], rfl, by simp⟩
    · exact sequence_ofKind h

theorem isNa_ofKind (x : Value) : OfKind .logical (isNa x) := by
  unfold isNa
  split
  · exact ofKind_map fun _ ↦ rfl
  · refine ⟨_, rfl, fun l hl ↦ ?_⟩
    rw [List.eq_of_mem_replicate hl]
    rfl

theorem arith_ofKind {op : ArithOp} (h : arith op x y = .ok v) :
    OfKind .integer v ∨ OfKind .double v := by
  obtain ⟨a, -, h⟩ := bind_eq_ok.1 h
  obtain ⟨b, -, h⟩ := bind_eq_ok.1 h
  cases h
  -- Whether the operation is on integers is decided once for all elements.
  cases op.keepsIntegers && integerLike a && integerLike b with
  | true => exact .inl (ofKind_map fun _ ↦ rfl)
  | false => exact .inr (ofKind_map fun _ ↦ rfl)

theorem compare_ofKind {op : CompareOp} (h : compare op x y = .ok v) :
    OfKind .logical v := by
  obtain ⟨a, -, h⟩ := bind_eq_ok.1 h
  obtain ⟨b, -, h⟩ := bind_eq_ok.1 h
  cases h
  exact ofKind_map fun _ ↦ rfl

theorem logic_ofKind {op : Option Bool → Option Bool → Option Bool}
    (h : logic op x y = .ok v) : OfKind .logical v := by
  obtain ⟨a, -, h⟩ := bind_eq_ok.1 h
  obtain ⟨b, -, h⟩ := bind_eq_ok.1 h
  obtain ⟨out, hout, h⟩ := bind_eq_ok.1 h
  cases h
  refine ofKind_mapM (fun pair l hl ↦ ?_) hout
  obtain ⟨_, -, hl⟩ := bind_eq_ok.1 hl
  obtain ⟨_, -, hl⟩ := bind_eq_ok.1 hl
  cases hl
  rfl

theorem scalarLogic_ofKind {op : Option Bool → Option Bool → Option Bool}
    (h : scalarLogic op x y = .ok v) : OfKind .logical v := by
  obtain ⟨a, -, h⟩ := bind_eq_ok.1 h
  obtain ⟨b, -, h⟩ := bind_eq_ok.1 h
  cases h
  exact ofKind_single rfl

theorem matching_ofKind {named : Bindings Value} (h : matching x y named = .ok v) :
    OfKind .logical v := by
  obtain ⟨m, -, h⟩ := bind_eq_ok.1 h
  obtain ⟨items, -, h⟩ := bind_eq_ok.1 h
  cases h
  exact ofKind_map fun _ ↦ rfl

theorem replacing_ofKind {all : Bool} {named : Bindings Value}
    (h : replacing all x y z named = .ok v) : OfKind .string v := by
  obtain ⟨m, -, h⟩ := bind_eq_ok.1 h
  obtain ⟨text, -, h⟩ := bind_eq_ok.1 h
  exact mapText_ofKind h

theorem substr_ofKind (h : substr x y z = .ok v) : OfKind .string v := by
  obtain ⟨start, -, h⟩ := bind_eq_ok.1 h
  obtain ⟨stop, -, h⟩ := bind_eq_ok.1 h
  split at h <;> exact mapText_ofKind h

theorem paste_ofKind {separator : String} {collapse : Option String}
    (h : paste args separator collapse = .ok v) : OfKind .string v := by
  obtain ⟨columns, -, h⟩ := bind_eq_ok.1 h
  cases collapse with
  | some c => cases h; exact ofKind_single rfl
  | none => cases h; exact ofKind_map fun _ ↦ rfl

theorem pasteCall_ofKind {named : Bindings Value}
    (h : pasteCall name args named = .ok v) : OfKind .string v := by
  -- However the two options are found, what follows is the same.
  unfold pasteCall at h
  dsimp only at h
  repeat' split at h
  all_goals grind [bind_eq_ok, paste_ofKind]

theorem asDate_eq {named : Bindings Value} (h : asDate x named = .ok v) :
    ∃ d, v = .date d := by
  have hdays {d : Float} (h : (do return Value.date (← dateOfDays d)) = .ok v) :
      ∃ d, v = .date d := by
    obtain ⟨date, -, h⟩ := bind_eq_ok.1 h
    cases h
    exact ⟨date, rfl⟩
  unfold asDate at h
  split at h
  · cases h; exact ⟨_, rfl⟩
  · cases h; exact ⟨_, rfl⟩
  · obtain ⟨items, -, h⟩ := bind_eq_ok.1 h
    match items, h with
    | [.string (some s)], h =>
      dsimp only at h
      split at h
      all_goals
        obtain ⟨template, -, h⟩ := bind_eq_ok.1 h
        split at h <;> cases h
        exact ⟨_, rfl⟩
    | [.integer (some i)], h => exact hdays h
    | [.double (some d)], h => exact hdays h
    | [.integer none], h | [.double none], h => cases h

/-! ## The ways of each function -/

theorem respectsKinds_id : RespectsKinds id := ⟨fun _ h ↦ h, fun _ _ h ↦ h⟩

theorem respectsKinds_negateLiteral : RespectsKinds negateLiteral where
  ne_null l _ := by cases l <;> exact nofun
  congr a b h := by cases a <;> cases b <;> first | rfl | cases h

theorem numeric_literals {what : String} {items : List Literal}
    (h : numeric x what = .ok items) : x.literals = .ok items := by
  obtain ⟨all, hall, h⟩ := bind_eq_ok.1 h
  split at h
  · cases h
  · cases h
    exact hall

theorem numeric_makes {what : String} (hx : x ∈ args)
    (h : (numeric x what).map .atomic = .ok v) : Makes name args v := by
  cases hitems : numeric x what with
  | error reason => rw [hitems] at h; cases h
  | ok items =>
    rw [hitems] at h
    cases h
    rw [← List.map_id items]
    exact .mapped hx (numeric_literals hitems) id respectsKinds_id

theorem negate_makes (hx : x ∈ args) (h : negate x = .ok v) : Makes name args v := by
  obtain ⟨items, hitems, h⟩ := bind_eq_ok.1 h
  cases h
  exact .mapped hx (numeric_literals hitems) negateLiteral respectsKinds_negateLiteral

theorem round_makes {digits : Float} (hx : x ∈ args) (h : round x digits = .ok v) :
    Makes name args v := by
  obtain rfl | hdouble := round_eq_or_ofKind h
  · exact .argument hx
  · exact makes_of_ofKind hdouble nofun

theorem number_makes (h : OfKind .integer v ∨ OfKind .double v) : Makes name args v :=
  h.elim (makes_of_ofKind · nofun) (makes_of_ofKind · nofun)

theorem aggregate_makes {op : AggregateOp} {values : List Value} {named : Bindings Value}
    (h : aggregate op values named = .ok v) : Makes name args v := by
  unfold aggregate at h
  dsimp only at h
  split at h
  · obtain ⟨flag, -, h⟩ := bind_eq_ok.1 h
    obtain ⟨dropMissing, -, h⟩ := bind_eq_ok.1 h
    obtain ⟨items, -, h⟩ := bind_eq_ok.1 h
    split at h <;> cases h <;> exact makes_ofLiteral _
  · obtain ⟨dropMissing, -, h⟩ := bind_eq_ok.1 h
    obtain ⟨items, -, h⟩ := bind_eq_ok.1 h
    split at h <;> cases h <;> exact makes_ofLiteral _

/-- The elements that are combined are coerced to their own kind, which is not that of `NULL`. -/
theorem combine_makes {values : List Value} (h : combine values = .ok v) : Makes name args v := by
  obtain ⟨columns, -, h⟩ := bind_eq_ok.1 h
  dsimp only at h
  split at h
  · cases h
    exact .null
  · cases h
    refine makes_of_ofKind (ofKind_map fun l ↦ kind_coerce _ l) (kindOf_ne_null fun l hl ↦ ?_)
    rintro rfl
    exact absurd (List.of_mem_filter hl) (by decide)

/-- The elements that are chosen are coerced to the kind of both branches. -/
theorem ifElse_makes (hy : y ∈ args) (h : ifElse x y z = .ok v) : Makes name args v := by
  obtain ⟨test, -, h⟩ := bind_eq_ok.1 h
  obtain ⟨yes, hyes, h⟩ := bind_eq_ok.1 h
  obtain ⟨no, -, h⟩ := bind_eq_ok.1 h
  split at h
  · cases h
  · obtain ⟨out, hout, h⟩ := bind_eq_ok.1 h
    cases h
    refine .vector ((kindOf yes).join (kindOf no)) (forall_mem_of_mapM ?_ hout) fun hnull ↦ ?_
    · intro pair l hl
      obtain ⟨b, -, hl⟩ := bind_eq_ok.1 hl
      rcases b with _ | _ | _ <;> cases hl <;> simp
    · refine ⟨y, hy, yes, hyes, ?_⟩
      by_contra hmem
      refine join_ne_null (kindOf_ne_null fun l hl ↦ ?_) hnull
      rintro rfl
      exact hmem hl

theorem choose_makes {no : Option Value} (hy : y ∈ args) (hno : ∀ z ∈ no, z ∈ args)
    (h : choose x y no = .ok v) : Makes name args v := by
  obtain ⟨b, -, h⟩ := bind_eq_ok.1 h
  rcases b with _ | _ | _
  · cases h
  · cases h
    cases no with
    | none => exact .null
    | some z => exact .argument (hno z rfl)
  · cases h
    exact .argument hy

/-! ## The table of functions -/

variable {named : Bindings Value}

theorem callNullary_makes {now : DateTime} (h : callNullary now name = some (.ok v)) :
    Makes name args v := by
  unfold callNullary at h
  split at h <;> cases h
  · exact .date _ (by decide)
  · exact .dateTime _ (by decide)

theorem callUnary_makes (h : callUnary name x named = some (.ok v)) : Makes name [x] v := by
  have hx : x ∈ [x] := List.mem_singleton_self x
  unfold callUnary at h
  split at h
  all_goals first | cases h | injection h with h
  case h_1 | h_2 => exact .argument hx
  case h_3 => exact numeric_makes hx h
  case h_4 => exact negate_makes hx h
  case h_5 => exact makes_of_ofKind (negation_ofKind h) nofun
  case h_6 => exact number_makes (sequenceOfLength_ofKind h)
  case h_7 | h_17 => exact makes_of_ofKind (ofKind_single rfl) nofun
  case h_8 => exact number_makes (absolute_ofKind h)
  case h_9 | h_10 | h_11 | h_12 | h_13 => exact makes_of_ofKind (mapDouble_ofKind h) nofun
  case h_14 =>
    split at h
    · exact makes_of_ofKind (logarithm_ofKind h) nofun
    · exact makes_of_ofKind (mapDouble_ofKind h) nofun
  case h_15 =>
    split at h
    · obtain ⟨digits, -, h⟩ := bind_eq_ok.1 h
      exact round_makes hx h
    · exact round_makes hx h
  case h_16 => exact makes_of_ofKind (isNa_ofKind x) nofun
  case h_18 => exact makes_of_ofKind (castAll_ofKind .integer (fun _ ↦ rfl) h) nofun
  case h_19 | h_20 => exact makes_of_ofKind (castAll_ofKind .double (fun _ ↦ rfl) h) nofun
  case h_21 => exact makes_of_ofKind (castAll_ofKind .string (fun _ ↦ rfl) h) nofun
  case h_22 => exact makes_of_ofKind (castAll_ofKind .logical kind_castLogical h) nofun
  case h_23 | h_24 => exact makes_of_ofKind (mapText_ofKind h) nofun
  case h_25 => exact makes_of_ofKind (characterCount_ofKind h) nofun
  case h_26 =>
    obtain ⟨d, rfl⟩ := asDate_eq h
    exact .date d (by decide)

theorem callBinary_makes (h : callBinary name x y named = some (.ok v)) :
    Makes name [x, y] v := by
  have hx : x ∈ [x, y] := List.mem_cons_self
  unfold callBinary at h
  split at h
  · exact number_makes (arith_ofKind (Option.some.inj h))
  · exact makes_of_ofKind (compare_ofKind (Option.some.inj h)) nofun
  · split at h
    all_goals first | cases h | injection h with h
    case h_1 | h_2 => exact makes_of_ofKind (logic_ofKind h) nofun
    case h_3 | h_4 => exact makes_of_ofKind (scalarLogic_ofKind h) nofun
    case h_5 => exact number_makes (sequence_ofKind h)
    case h_6 => exact makes_of_ofKind (logarithm_ofKind h) nofun
    case h_7 =>
      obtain ⟨digits, -, h⟩ := bind_eq_ok.1 h
      exact round_makes hx h
    case h_8 => exact makes_of_ofKind (matching_ofKind h) nofun
    case h_9 => exact choose_makes (by simp) (by simp) h

theorem callTernary_makes (h : callTernary name x y z named = some (.ok v)) :
    Makes name [x, y, z] v := by
  unfold callTernary at h
  split at h
  all_goals first | cases h | injection h with h
  case h_1 => exact makes_of_ofKind (substr_ofKind h) nofun
  case h_2 | h_3 => exact makes_of_ofKind (replacing_ofKind h) nofun
  case h_4 | h_5 => exact ifElse_makes (by simp) h
  case h_6 => exact choose_makes (by simp) (by simp) h

theorem callVariadic_makes (h : callVariadic name args named = some (.ok v)) :
    Makes name args v := by
  unfold callVariadic at h
  split at h
  · exact combine_makes (Option.some.inj h)
  · exact makes_of_ofKind (pasteCall_ofKind (Option.some.inj h)) nofun
  · exact makes_of_ofKind (pasteCall_ofKind (Option.some.inj h)) nofun
  · obtain ⟨op, -, h⟩ := Option.map_eq_some_iff.1 h
    exact aggregate_makes h

/-- What a local function returns, it has made in one of the ways. -/
theorem callLocal_makes {now : DateTime} (h : callLocal now name args named = .ok v) :
    Makes name args v := by
  unfold callLocal at h
  split at h
  · rename_i hvariadic
    exact callVariadic_makes (hvariadic.trans (congrArg some h))
  · rename_i hentry
    subst h
    unfold entry at hentry
    split at hentry
    · exact callNullary_makes hentry
    · exact callUnary_makes hentry
    · exact callBinary_makes hentry
    · exact callTernary_makes hentry
    · cases hentry
  · split at h <;> cases h

end Functions

/-! ## Members and elements -/

section Members

variable {v target index : Value}

/-- Is the value one of a list, under a name or at a position? -/
def IsMember (v target : Value) : Prop :=
  ∃ entries : List (String × Value), target = .list entries ∧ ∃ entry ∈ entries, entry.2 = v

theorem isMember_of_get? {entries : Bindings Value} {key : String}
    (h : entries.get? key = some v) : IsMember v (.list entries) :=
  ⟨entries, rfl, _, Bindings.mem_of_get? h, rfl⟩

theorem memberOf_eq {key : String} (h : memberOf target key = .ok v) :
    v = .null ∨ IsMember v target := by
  unfold memberOf at h
  split at h
  · rename_i entries
    cases h
    cases hget : Bindings.get? entries key with
    | none => exact .inl rfl
    | some member => exact .inr (isMember_of_get? hget)
  · cases h

theorem elementOf_eq (h : elementOf target index = .ok v) :
    (∃ l, v = .ofLiteral l) ∨ IsMember v target := by
  unfold elementOf at h
  split at h
  · unfold namedElement at h
    split at h
    · split at h
      · rename_i hget
        cases h
        exact .inr (isMember_of_get? hget)
      · cases h
    · cases h
  · split at h
    · obtain ⟨position, -, h⟩ := bind_eq_ok.1 h
      split at h
      · cases h
        exact .inl ⟨_, rfl⟩
      · cases h
    · obtain ⟨position, -, h⟩ := bind_eq_ok.1 h
      split at h
      · rename_i entries key v hget
        cases h
        exact .inr ⟨_, rfl, _, List.mem_of_getElem? hget, rfl⟩
      · cases h
    · cases h

theorem subsetItem_eq {items : List Literal} {position l : Literal}
    (h : subsetItem items position = .ok l) : l ∈ items ∨ l = .missing (kindOf items) := by
  unfold subsetItem at h
  split at h
  · cases h
  · split at h
    · split at h
      · cases h
        cases hget : items[Double.toUnsigned _ - 1]? with
        | none => exact .inr rfl
        | some l => exact .inl (List.mem_of_getElem? hget)
      · cases h
    · cases h

end Members

end SqlVerbs.Local
