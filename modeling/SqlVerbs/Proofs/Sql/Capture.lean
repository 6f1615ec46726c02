import SqlVerbs.Dialect.Registry
import SqlVerbs.Proofs.Sql.Grouping

/-!
# Operands captured by a neighbouring operator

A chain of one associative operator may be regrouped. The printer leaves the parentheses of such a
chain out on the right of the same operator, but looks no further than its top: when the chain
begins with operators that group to the left only, the operand in front of them is captured by the
operator that was outside. That is the one way in which printing changes the grouping of an
expression.
-/

namespace SqlVerbs.Sql.Expr

/-- The operators that may be regrouped with another. -/
def sameChain (op op' : BinaryOp) : Bool := op.associativity = .both && op' = op

/-- The tree with all chains of one associative operator grouped to the left, and with all literals
replaced by their text. -/
def normal (d : Dialect) : Expr → Expr :=
  rebuild (spellLeaf d) (fun l op _ r' ↦ graft (sameChain op) l op r')

theorem normal_binary (d : Dialect) (l : Expr) (op : BinaryOp) (r : Expr) :
    normal d (.binary l op r) = graft (sameChain op) (normal d l) op (normal d r) := rfl

theorem normal_regroup (d : Dialect) (a b c : Expr) {op : BinaryOp}
    (hop : op.associativity = .both) :
    normal d (.binary (.binary a op b) op c) = normal d (.binary a op (.binary b op c)) := by
  have hself : sameChain op op = true := by simp [sameChain, hop]
  simp only [normal_binary, graft_graft _ _ _ _ hself (fun _ ho ↦ ho)]

/-- Does the chain of a strength begin with an operator that groups to the left only? -/
def exposes (s : Strength) : Expr → Bool
  | .binary l op _ => op.strength = s && (op.associativity = .left || exposes s l)
  | _ => false

/-- Does an operator capture the first operand of its right side? -/
def captures : Expr → Bool
  | .binary _ op r => !needsParens op .right r && exposes op.strength r
  | _ => false

/-- Is an operand captured anywhere in the tree? -/
def hasCapture (e : Expr) : Bool := e.parts.any captures

/-! ## Without a capture the grouping is kept -/

theorem exposes_of_strength_ne {s : Strength} {e : Expr} (h : e.strength ≠ s) :
    exposes s e = false := by
  cases e with
  | binary l op r =>
    have hop : op.strength ≠ s := h
    simp [exposes, hop]
  | _ => rfl

theorem exposes_graft (l : Expr) (op : BinaryOp) (r : Expr) :
    exposes op.strength (graft (sameStrength op) l op r) =
      (exposes op.strength r || op.associativity = .left || exposes op.strength l) := by
  induction r using Expr.induction with
  | binary l' op' r' ihl _ =>
    by_cases h : op'.strength = op.strength
    · simp [graft, sameStrength, h, exposes, ihl, Bool.or_assoc]
    · simp [graft, sameStrength, h, exposes]
  | _ => simp [graft, exposes]

theorem hasCapture_eq_false {e : Expr} (h : e.hasCapture = false) :
    e.captures = false ∧ ∀ c ∈ e.children, c.hasCapture = false := by
  simp only [hasCapture, List.any_eq_false] at h ⊢
  refine ⟨Bool.eq_false_iff.2 (h e (mem_parts_self e)), fun c hc s hs ↦ ?_⟩
  exact h s (mem_parts_of_child hc hs)

theorem exposes_reading (d : Dialect) (s : Strength) {e : Expr} (h : e.hasCapture = false) :
    exposes s (reading d e) = exposes s e := by
  induction e using Expr.induction with
  | binary l op r ihl ihr =>
    obtain ⟨hcaptures, hchild⟩ := hasCapture_eq_false h
    have hl := ihl (hchild l (by simp [children]))
    have hr := ihr (hchild r (by simp [children]))
    rw [reading_binary]
    by_cases hop : op.strength = s
    · subst hop
      split
      · simp [exposes, hl]
      · rename_i hneeded
        have hexposes : exposes op.strength r = false := by
          simpa [captures, hneeded] using hcaptures
        simp [exposes_graft, exposes, hl, hr, hexposes]
    · have hne : (Expr.binary l op r).strength ≠ s := hop
      rw [exposes_of_strength_ne hne, ← reading_binary]
      exact exposes_of_strength_ne (by rwa [strength_reading])
  | unary op e _ => cases op <;> rfl
  | _ => rfl

theorem eq_of_sameStrength {op op' : BinaryOp} (hboth : op.associativity = .both)
    (hleft : op'.associativity ≠ .left) (h : op'.strength = op.strength) : op' = op := by
  cases op <;> cases hboth <;> cases op' <;> first | rfl | exact absurd rfl hleft | cases h

/-- A chain that has no operator that groups to the left only may join the chain in front of it. -/
theorem normal_graft (d : Dialect) (l : Expr) {op : BinaryOp} (hop : op.associativity = .both)
    {r : Expr} (h : exposes op.strength r = false) :
    normal d (graft (sameStrength op) l op r) =
      graft (sameChain op) (normal d l) op (normal d r) := by
  induction r using Expr.induction with
  | binary l' op' r' ihl _ =>
    by_cases hsame : op'.strength = op.strength
    · simp only [exposes, hsame, decide_true, Bool.true_and, Bool.or_eq_false_iff,
        decide_eq_false_iff_not] at h
      obtain rfl := eq_of_sameStrength hop h.1 hsame
      have hself : sameChain op' op' = true := by simp [sameChain, hop]
      calc normal d (graft (sameStrength op') l op' (.binary l' op' r'))
          = normal d (.binary (graft (sameStrength op') l op' l') op' r') := by
            simp [graft, sameStrength]
        _ = graft (sameChain op') (graft (sameChain op') (normal d l) op' (normal d l')) op'
              (normal d r') := by rw [normal_binary, ihl h.2]
        _ = graft (sameChain op') (normal d l) op' (normal d (.binary l' op' r')) := by
            rw [normal_binary, graft_graft _ _ _ _ hself (fun _ ho ↦ ho)]
    · simp [graft, sameStrength, hsame, normal_binary]
  | _ => rfl

theorem associativity_of_needsParens {op : BinaryOp} {r : Expr}
    (h : needsParens op .right r = false) (hstrength : r.strength = op.strength) :
    op.associativity = .both := by
  cases r <;> simp_all [needsParens, equalNeedsParens]

theorem normal_reading_binary (d : Dialect) {l : Expr} {op : BinaryOp} {r : Expr}
    (h : (Expr.binary l op r).hasCapture = false) :
    normal d (reading d (.binary l op r)) =
      graft (sameChain op) (normal d (reading d l)) op (normal d (reading d r)) := by
  obtain ⟨hcaptures, hchild⟩ := hasCapture_eq_false h
  rw [reading_binary]
  split
  · rfl
  · rename_i hneeded
    have hexposes : exposes op.strength r = false := by simpa [captures, hneeded] using hcaptures
    by_cases hstrength : r.strength = op.strength
    · have hboth := associativity_of_needsParens (Bool.eq_false_iff.2 hneeded) hstrength
      refine normal_graft d _ hboth ?_
      rwa [exposes_reading d _ (hchild r (by simp [children]))]
    · rw [graft_of_strength_ne _ (by rwa [strength_reading])]
      rfl

theorem spellLeaf_leaf (d : Dialect) {e : Expr} (h : e.isLeaf = true) :
    normal d (spellLeaf d e) = spellLeaf d e := by
  cases e <;> first | rfl | cases h

/-- Where no operand is captured, the text is read as the printed expression. -/
theorem normal_reading (d : Dialect) {e : Expr} (h : e.hasCapture = false) :
    normal d (reading d e) = normal d e := by
  induction e using Expr.induction_children with
  | node e ih =>
  have hchild : ∀ c ∈ e.children, normal d (reading d c) = normal d c :=
    fun c hc ↦ ih c hc ((hasCapture_eq_false h).2 c hc)
  cases e with
  | binary l op r =>
    rw [normal_reading_binary d h, hchild l (by simp [children]), hchild r (by simp [children]),
      normal_binary]
  | _ => exact rebuild_rebuild_of_children (by simp) (spellLeaf_leaf d) hchild

/-! ## With a capture it is not

The nodes to the left of operators that group to the left only are counted. Regrouping a chain of
one associative operator keeps the count, and a capture adds to it. -/

def size (e : Expr) : Nat := weight (fun _ ↦ 1) e

/-- The nodes on the left of an operator that groups to the left only. -/
def leftLoad : Expr → Nat
  | .binary l op _ => if op.associativity = .left then size l else 0
  | _ => 0

/-- The operators that group to the left only, down the left side of a chain. -/
def leftOperators (joins : BinaryOp → Bool) : Expr → Nat
  | .binary l op _ =>
    if joins op then (if op.associativity = .left then 1 else 0) + leftOperators joins l else 0
  | _ => 0

theorem size_binary (l : Expr) (op : BinaryOp) (r : Expr) :
    size (.binary l op r) = 1 + (size l + size r) := weight_binary _ l op r

theorem size_graft (joins : BinaryOp → Bool) (l : Expr) (op : BinaryOp) (r : Expr) :
    size (graft joins l op r) = 1 + (size l + size r) := by
  induction r using Expr.induction with
  | binary l' op' r' ihl _ =>
    by_cases h : joins op' = true
    · simp only [graft, h, if_true, size_binary, ihl]
      omega
    · simp [graft, h, size_binary]
  | _ => exact size_binary l op _

theorem weight_leftLoad_graft (joins : BinaryOp → Bool) (l : Expr) (op : BinaryOp) (r : Expr) :
    weight leftLoad (graft joins l op r) =
      (if op.associativity = .left then size l else 0) + leftOperators joins r * (size l + 1) +
        (weight leftLoad l + weight leftLoad r) := by
  induction r using Expr.induction with
  | binary l' op' r' ihl _ =>
    by_cases h : joins op' = true
    · by_cases hleft : op'.associativity = .left
      · simp only [graft, h, if_true, weight_binary, leftLoad, hleft, size_graft, ihl,
          leftOperators, Nat.add_mul]
        omega
      · simp only [graft, h, if_true, weight_binary, leftLoad, hleft, if_false, ihl,
          leftOperators, Nat.zero_add]
        omega
    · simp [graft, h, weight_binary, leftLoad, leftOperators]
  | _ => simp [graft, weight_binary, leftLoad, leftOperators]

theorem leftOperators_sameChain (op : BinaryOp) (e : Expr) :
    leftOperators (sameChain op) e = 0 := by
  induction e using Expr.induction with
  | binary l op' r ihl _ =>
    by_cases h : sameChain op op' = true
    · have hop : op.associativity = .both ∧ op' = op := by simpa [sameChain] using h
      obtain ⟨hboth, rfl⟩ := hop
      simp [leftOperators, hboth, ihl]
    · simp [leftOperators, h]
  | _ => rfl

theorem exposes_iff_leftOperators (op : BinaryOp) (e : Expr) :
    exposes op.strength e = true ↔ 0 < leftOperators (sameStrength op) e := by
  induction e using Expr.induction with
  | binary l op' r ihl _ =>
    by_cases h : op'.strength = op.strength
    · by_cases hleft : op'.associativity = .left
      · simp [exposes, leftOperators, sameStrength, h, hleft, Nat.add_comm 1]
      · simp [exposes, leftOperators, sameStrength, h, hleft, ihl]
    · simp [exposes, leftOperators, sameStrength, h]
  | _ => simp [exposes, leftOperators]

theorem exposes_reading_of_exposes (d : Dialect) {s : Strength} {e : Expr}
    (h : exposes s e = true) : exposes s (reading d e) = true := by
  induction e using Expr.induction with
  | binary l op r ihl _ =>
    simp only [exposes, Bool.and_eq_true, decide_eq_true_eq, Bool.or_eq_true] at h
    obtain ⟨rfl, hleft⟩ := h
    rw [reading_binary]
    split
    · simpa [exposes] using hleft.imp_right ihl
    · rw [exposes_graft]
      rcases hleft with hleft | hl
      · simp [hleft]
      · simp [ihl hl]
  | _ => cases h

theorem weight_spellLeaf (d : Dialect) (load : Expr → Nat) {c : Nat}
    (hload : ∀ e, (∀ l op r, e ≠ .binary l op r) → load e = c) {e : Expr}
    (h : e.isLeaf = true) : weight load (spellLeaf d e) = c := by
  rw [weight_eq]
  cases e <;> first | exact (Nat.add_zero _).trans (hload _ nofun) | cases h

theorem weight_zero (e : Expr) : weight (fun _ ↦ 0) e = 0 := by
  simp [weight, List.map_const']

theorem size_rebuild (d : Dialect) {join : Expr → BinaryOp → Expr → Expr → Expr}
    (hjoin : ∀ l op r r', size (join l op r r') = 1 + (size l + size r')) (e : Expr) :
    size (rebuild (spellLeaf d) join e) = size e := by
  have h : weight (fun _ ↦ 1) (rebuild (spellLeaf d) join e) =
      weight (fun _ ↦ 1) e + weight (fun _ ↦ 0) e :=
    weight_rebuild (fun _ _ ↦ rfl) (fun _ _ ↦ rfl)
      (fun e he ↦ weight_spellLeaf d _ (fun _ _ ↦ rfl) he) (fun l op r ↦ hjoin _ op r _) e
  rw [weight_zero] at h
  exact h

theorem size_reading (d : Dialect) (e : Expr) : size (reading d e) = size e := by
  refine size_rebuild d (fun l op r r' ↦ ?_) e
  split
  · exact size_binary l op r'
  · exact size_graft _ l op r'

theorem size_normal (d : Dialect) (e : Expr) : size (normal d e) = size e :=
  size_rebuild d (fun l op _ r' ↦ size_graft _ l op r') e

theorem leftLoad_of_ne_binary (e : Expr) (h : ∀ l op r, e ≠ .binary l op r) : leftLoad e = 0 := by
  cases e <;> first | rfl | exact absurd rfl (h _ _ _)

theorem weight_leftLoad_normal (d : Dialect) (e : Expr) :
    weight leftLoad (normal d e) = weight leftLoad e := by
  have h : weight leftLoad (normal d e) = weight leftLoad e + weight (fun _ ↦ 0) e := by
    refine weight_rebuild leftLoad_of_ne_binary (fun _ _ ↦ rfl)
      (fun e he ↦ weight_spellLeaf d _ leftLoad_of_ne_binary he) (fun l op r ↦ ?_) e
    rw [← normal, normal_binary, weight_leftLoad_graft, leftOperators_sameChain, size_normal]
    simp [leftLoad]
  rw [h, weight_zero, Nat.add_zero]

/-- What a capture adds to the count. -/
def captureLoad (d : Dialect) : Expr → Nat
  | .binary l op r =>
    if needsParens op .right r then 0
    else leftOperators (sameStrength op) (reading d r) * (size l + 1)
  | _ => 0

theorem weight_leftLoad_reading (d : Dialect) (e : Expr) :
    weight leftLoad (reading d e) = weight leftLoad e + weight (captureLoad d) e := by
  refine weight_rebuild leftLoad_of_ne_binary ?_
    (fun e he ↦ weight_spellLeaf d _ leftLoad_of_ne_binary he) (fun l op r ↦ ?_) e
  · intro e h
    cases e <;> first | rfl | exact absurd rfl (h _ _ _)
  · rw [← reading, reading_binary]
    by_cases hneeded : needsParens op .right r = true
    · simp [hneeded, weight_binary, leftLoad, captureLoad, size_reading]
    · simp [hneeded, weight_leftLoad_graft, leftLoad, captureLoad, size_reading]

theorem captureLoad_pos (d : Dialect) {e : Expr} (h : e.captures = true) : 0 < captureLoad d e := by
  cases e with
  | binary l op r =>
    simp only [captures, Bool.and_eq_true, Bool.not_eq_true'] at h
    have hexposes := exposes_reading_of_exposes d h.2
    have hpos := (exposes_iff_leftOperators op _).1 hexposes
    simpa [captureLoad, h.1] using hpos
  | _ => cases h

/-- Where an operand is captured, the text is read as a different expression. -/
theorem normal_reading_ne (d : Dialect) {e : Expr} (h : e.hasCapture = true) :
    normal d (reading d e) ≠ normal d e := by
  intro heq
  obtain ⟨s, hs, hcaptures⟩ := List.any_eq_true.1 h
  have hpos : 0 < weight (captureLoad d) e :=
    List.sum_pos_iff_exists_pos_nat.2 ⟨_, List.mem_map_of_mem hs, captureLoad_pos d hcaptures⟩
  have hcount := weight_leftLoad_reading d e
  rw [← weight_leftLoad_normal d (reading d e), heq, weight_leftLoad_normal] at hcount
  omega

/-- The printed tokens of an expression stand for exactly one tree. It is the printed expression, up
to the grouping of chains of one associative operator, unless an operand is captured. -/
theorem printed_grouping (d : Dialect) (e : Expr) (h : e.IsExpression) :
    (e.render d).toList = spell d e.pieces ∧
      ∃ t, (∀ t', Derives 1 (e.tokens d) t' ↔ t' = t) ∧
        (t.normal d = e.normal d ↔ e.hasCapture = false) := by
  refine ⟨toList_render d e, e.reading d, derives_iff_eq_reading d h, ?_⟩
  constructor
  · intro heq
    exact Bool.eq_false_iff.2 (fun hcapture ↦ normal_reading_ne d hcapture heq)
  · exact normal_reading d

/-- A product whose second factor is the product of a remainder. -/
def capturedRemainder : Expr :=
  .binary (.column "a") .mul
    (.binary (.binary (.column "b") .mod (.column "c")) .mul (.column "d"))

theorem printed_grouping_capturedRemainder :
    capturedRemainder.render Dialect.ansi = "\"a\" * \"b\" % \"c\" * \"d\"" ∧
      ∃ t, Derives 1 (capturedRemainder.tokens Dialect.ansi) t ∧
        t.normal Dialect.ansi ≠ capturedRemainder.normal Dialect.ansi := by
  have h : capturedRemainder.IsExpression := by decide
  obtain ⟨-, t, hderives, hnormal⟩ := printed_grouping Dialect.ansi capturedRemainder h
  refine ⟨by decide, t, (hderives t).2 rfl, fun heq ↦ ?_⟩
  exact absurd (hnormal.1 heq) (by decide)

end SqlVerbs.Sql.Expr
