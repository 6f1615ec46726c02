import SqlVerbs.Host.JsonForm
import SqlVerbs.Proofs.Local.Names

/-!
# Reading back the JSON form

Missing values, `NULL`, empty arguments and empty vectors all have JSON forms of their own, and the
members of an object keep their order. So an expression is read back as it was, as long as its
doubles are finite: JSON has no others. Nothing is asked of the depth of an expression, or of the
way in which the form is written down, apart from what it has to keep.
-/

namespace SqlVerbs

open Json (Value)

namespace Literal

/-- Is the literal no double, or a finite or missing one? -/
def isFinite : Literal → Bool
  | .double (some d) => Double.isFinite d
  | _ => true

theorem integerPayload?_toInt (i : Int64) : integerPayload? (.whole i.toInt) = some i := by
  have hlow : -0x8000000000000000 ≤ i.toInt := i.le_toInt
  have hhigh : i.toInt < 0x8000000000000000 := i.toInt_lt
  rw [integerPayload?, if_pos ⟨hlow, hhigh⟩, Int64.ofInt_toInt]

/-- A literal is read back with its kind, missing or not. -/
theorem decode?_encode {l : Literal} (h : l.isFinite = true) : decode? l.encode = some l := by
  have hread (payload : Value) (hpayload : ofKind? l.kind payload = some l) :
      decode? (.object [("kind", .string l.kind.name), ("value", payload)]) = some l := by
    have hkind : decodeKind? (.string l.kind.name) = some l.kind := by cases l <;> rfl
    simp [decode?, membersNamed, hkind, hpayload]
  cases l with
  | integer value =>
    refine hread _ ?_
    cases value with
    | none => rfl
    | some i => simp [kind, encodePayload, ofKind?, decodePayload, integerPayload?_toInt]
  | double value =>
    refine hread _ ?_
    cases value with
    | none => rfl
    | some d =>
      have hd : Double.isFinite d = true := h
      simp [kind, encodePayload, ofKind?, decodePayload, doublePayload?, hd]
  | logical value => exact hread _ (by cases value <;> rfl)
  | string value => exact hread _ (by cases value <;> rfl)
  | null => rfl

end Literal

namespace Host.Expr

/-! ## Expressions that JSON can hold -/

/-- Are all doubles in the expression finite or missing? -/
def hasFiniteDoubles : Expr → Bool :=
  everywhere fun
    | .literal value => value.isFinite
    | .vector items => items.all Literal.isFinite
    | _ => true

/-- Does no call in the expression name an argument twice? -/
def hasDistinctNames : Expr → Bool :=
  everywhere fun
    | .call _ _ named => decide (Bindings.names named).Nodup
    | _ => true

/-! ## Reading back -/

theorem encodeAll_eq_map (args : List Expr) : encodeAll args = args.map encode := by
  induction args with
  | nil => rfl
  | cons e rest ih => rw [encodeAll, ih, List.map_cons]

theorem encodeNamed_eq_map (named : List (String × Expr)) :
    encodeNamed named = named.map (fun entry ↦ (entry.1, encode entry.2)) := by
  induction named with
  | nil => rfl
  | cons entry rest ih => rw [encodeNamed, ih, List.map_cons]

theorem decodeLiterals?_encode {items : List Literal}
    (h : ∀ item ∈ items, item.isFinite = true) :
    decodeLiterals? (.array (items.map Literal.encode)) = some items := by
  rw [decodeLiterals?]
  induction items with
  | nil => rfl
  | cons item rest ih =>
    rw [List.forall_mem_cons] at h
    simp [Literal.decode?_encode h.1, ih h.2]

theorem decodeAll?_encodeAll {args : List Expr} (h : ∀ e ∈ args, decode? e.encode = some e) :
    decodeAll? (encodeAll args) = some args := by
  induction args with
  | nil => rfl
  | cons e rest ih =>
    rw [List.forall_mem_cons] at h
    simp [encodeAll, decodeAll?, h.1, ih h.2]

/-- Named arguments are written one after the other into those that are there. -/
theorem decodeMembers?_encodeNamed {named : List (String × Expr)}
    (h : ∀ entry ∈ named, decode? entry.2.encode = some entry.2) (before : Bindings Expr) :
    decodeMembers? (encodeNamed named) before = some (before.insertAll named) := by
  induction named generalizing before with
  | nil => rfl
  | cons entry rest ih =>
    rw [List.forall_mem_cons] at h
    rw [encodeNamed, decodeMembers?, h.1]
    exact ih h.2 _

theorem decode?_encode_call {name : String} {args : List Expr} {named : List (String × Expr)}
    (hnames : (Bindings.names named).Nodup) (hargs : ∀ e ∈ args, decode? e.encode = some e)
    (hnamed : ∀ entry ∈ named, decode? entry.2.encode = some entry.2) :
    decode? (encode (.call name args named)) = some (.call name args named) := by
  have hread : decodeFields? (if named.isEmpty then [] else
      [("named", .object (encodeNamed named))]) ⟨some name, some args, none⟩ =
        some ⟨some name, some args, if named.isEmpty then none else some named⟩ := by
    split
    · rfl
    · have hmembers : decodeMembers? (encodeNamed named) [] = some named := by
        rw [decodeMembers?_encodeNamed hnamed]
        exact congrArg some (Bindings.ofPairs_of_nodup hnames)
      simp [decodeFields?, decodeNamed?, hmembers]
  have hcall : decodeCall? (.object (("name", .string name) :: ("args", .array (encodeAll args)) ::
      (if named.isEmpty then [] else [("named", .object (encodeNamed named))]))) =
        some (.call name args named) := by
    simp only [decodeCall?, decodeFields?, Literal.stringPayload?, decodeArgs?,
      decodeAll?_encodeAll hargs]
    cases named with
    | nil => simp [decodeFields?, CallFields.toExpr?]
    | cons entry rest => simp_all [CallFields.toExpr?]
  simpa [encode, decode?] using hcall

theorem decode?_encode {e : Expr} (hfinite : e.hasFiniteDoubles = true)
    (hdistinct : e.hasDistinctNames = true) : decode? e.encode = some e := by
  induction e using Host.Expr.induction with
  | literal value => simp [encode, decode?, Literal.decode?_encode hfinite]
  | vector items =>
    have hitems : decodeLiterals? (.array (items.map Literal.encode)) = some items :=
      decodeLiterals?_encode (List.all_eq_true.1 hfinite)
    simp [encode, decode?, hitems]
  | symbol name => rfl
  | call name args named ihargs ihnamed =>
    obtain ⟨-, hfiniteArgs, hfiniteNamed⟩ := everywhere_call.1 hfinite
    obtain ⟨hnames, hdistinctArgs, hdistinctNamed⟩ := everywhere_call.1 hdistinct
    apply decode?_encode_call (of_decide_eq_true hnames)
    · exact fun e he ↦ ihargs e he (hfiniteArgs e he) (hdistinctArgs e he)
    · exact fun entry hentry ↦ ihnamed entry hentry (hfiniteNamed entry hentry)
        (hdistinctNamed entry hentry)

end Host.Expr

/-! ## Writing down and reading -/

/-- What writing a value down and reading it keeps: finite doubles, 64-bit integers and strings, and
all members in their order. -/
structure Json.KeepsContent (carry : Value → Value) : Prop where
  null : carry .null = .null
  bool (b : Bool) : carry (.bool b) = .bool b
  whole (i : Int64) : carry (.whole i.toInt) = .whole i.toInt
  real {d : Float} (h : Double.isFinite d = true) : carry (.real d) = .real d
  string (s : String) : carry (.string s) = .string s
  array (items : List Value) : carry (.array items) = .array (items.map carry)
  object (members : List (String × Value)) :
    carry (.object members) = .object (members.map fun member ↦ (member.1, carry member.2))

namespace Json.KeepsContent

variable {carry : Value → Value} (hcarry : KeepsContent carry)

include hcarry

theorem literal {l : Literal} (h : l.isFinite = true) : carry l.encode = l.encode := by
  have hobject (payload : Value) (hpayload : carry payload = payload) :
      carry (.object [("kind", .string l.kind.name), ("value", payload)]) =
        .object [("kind", .string l.kind.name), ("value", payload)] := by
    simp [hcarry.object, hcarry.string, hpayload]
  cases l with
  | integer value =>
    refine hobject _ ?_
    cases value with
    | none => exact hcarry.null
    | some i => exact hcarry.whole i
  | double value =>
    refine hobject _ ?_
    cases value with
    | none => exact hcarry.null
    | some d => exact hcarry.real h
  | logical value =>
    refine hobject _ ?_
    cases value with
    | none => exact hcarry.null
    | some b => exact hcarry.bool b
  | string value =>
    refine hobject _ ?_
    cases value with
    | none => exact hcarry.null
    | some s => exact hcarry.string s
  | null => simp [Literal.encode, hcarry.object, hcarry.string]

theorem encode {e : Host.Expr} (h : e.hasFiniteDoubles = true) : carry e.encode = e.encode := by
  induction e using Host.Expr.induction with
  | literal value => simp [Host.Expr.encode, hcarry.object, hcarry.literal h]
  | vector items =>
    have hitems : (items.map Literal.encode).map carry = items.map Literal.encode := by
      rw [List.map_map]
      exact List.map_congr_left fun item hitem ↦ hcarry.literal (List.all_eq_true.1 h item hitem)
    simp [Host.Expr.encode, hcarry.object, hcarry.array, hitems]
  | symbol name => simp [Host.Expr.encode, hcarry.object, hcarry.string]
  | call name args named ihargs ihnamed =>
    obtain ⟨-, hfiniteArgs, hfiniteNamed⟩ := Host.Expr.everywhere_call.1 h
    have hargs : (Host.Expr.encodeAll args).map carry = Host.Expr.encodeAll args := by
      rw [Host.Expr.encodeAll_eq_map, List.map_map]
      exact List.map_congr_left fun e he ↦ ihargs e he (hfiniteArgs e he)
    have hnamed : (Host.Expr.encodeNamed named).map (fun member ↦ (member.1, carry member.2)) =
        Host.Expr.encodeNamed named := by
      rw [Host.Expr.encodeNamed_eq_map, List.map_map]
      exact List.map_congr_left fun entry hentry ↦
        congrArg (Prod.mk entry.1) (ihnamed entry hentry (hfiniteNamed entry hentry))
    cases named with
    | nil => simp [Host.Expr.encode, hcarry.object, hcarry.array, hcarry.string, hargs]
    | cons entry rest =>
      simp [Host.Expr.encode, hcarry.object, hcarry.array, hcarry.string, hargs, hnamed]

end Json.KeepsContent

/-- The JSON form of an expression is read back as the expression, whatever its depth: with the same
kinds and missing values, and with all arguments in their order. It is the same if the form is
written down in between, as long as that keeps finite doubles, integers and strings, and the order
of members. -/
theorem Host.Expr.json_round_trip {e : Host.Expr} (hfinite : e.hasFiniteDoubles = true)
    (hdistinct : e.hasDistinctNames = true) :
    decode? e.encode = some e ∧
      ∀ carry, Json.KeepsContent carry → decode? (carry e.encode) = some e := by
  have hread := decode?_encode hfinite hdistinct
  refine ⟨hread, fun carry hcarry ↦ ?_⟩
  rw [hcarry.encode hfinite, hread]

/-- A call whose named arguments are not in alphabetical order, with all that could be taken for
nothing: missing values of two kinds, `NULL`, no arguments and no elements. -/
def Host.Expr.nearlyNothing : Host.Expr :=
  .call "f" [.literal (.double none), .literal .null, .call "g" [] []]
    [("z", .vector []), ("a", .literal (.string none)),
      ("m", .vector [.double (some 0.5), .integer none])]

open Host.Expr in
theorem Host.Expr.json_round_trip_nearlyNothing :
    nearlyNothing.hasFiniteDoubles = true ∧ nearlyNothing.hasDistinctNames = true ∧
      Json.KeepsContent id ∧ decode? (id nearlyNothing.encode) = some nearlyNothing := by
  have hfinite : nearlyNothing.hasFiniteDoubles = true := by decide +kernel
  have hdistinct : nearlyNothing.hasDistinctNames = true := by decide +kernel
  have hcarry : Json.KeepsContent id :=
    ⟨rfl, fun _ ↦ rfl, fun _ ↦ rfl, fun _ ↦ rfl, fun _ ↦ rfl, fun items ↦ by simp,
      fun members ↦ by simp⟩
  exact ⟨hfinite, hdistinct, hcarry, (json_round_trip hfinite hdistinct).2 id hcarry⟩

end SqlVerbs
