import SqlVerbs.Proofs.Sql.Unambiguous

/-!
# The grouping of printed expressions

Parentheses are left out on the right of an operator when the operand is a chain of the same
operator. The text is then read as one chain, in which the operands of the right side follow those
of the left side. This module says which tree every printed text is read as.
-/

namespace SqlVerbs.Sql

/-- A literal is known by its text only. -/
def Token.spelled (d : Dialect) : Token → Token
  | .literal value => .verbatim (d.formatLiteral value)
  | t => t

/-- The tokens among pieces, as the dialect spells them. -/
def tokensIn (d : Dialect) (pieces : List Piece) : List Token :=
  (tokensOf pieces).map (Token.spelled d)

section TokensIn

variable (d : Dialect)

@[simp] theorem tokensIn_nil : tokensIn d [] = [] := rfl

@[simp] theorem tokensIn_token (t : Token) (rest : List Piece) :
    tokensIn d (.token t :: rest) = t.spelled d :: tokensIn d rest := rfl

@[simp] theorem tokensIn_word (text : String) (rest : List Piece) :
    tokensIn d (.word text :: rest) = .word text :: tokensIn d rest := rfl

@[simp] theorem tokensIn_symbol (text : String) (rest : List Piece) :
    tokensIn d (.symbol text :: rest) = .symbol text :: tokensIn d rest := rfl

@[simp] theorem tokensIn_blank (rest : List Piece) :
    tokensIn d (.blank :: rest) = tokensIn d rest := rfl

@[simp] theorem tokensIn_append (first second : List Piece) :
    tokensIn d (first ++ second) = tokensIn d first ++ tokensIn d second := by
  simp [tokensIn, tokensOf]

theorem tokensIn_flatten (lists : List (List Piece)) :
    tokensIn d lists.flatten = lists.flatMap (tokensIn d) := by
  induction lists with
  | nil => rfl
  | cons first rest ih => rw [List.flatten_cons, tokensIn_append, ih, List.flatMap_cons]

@[simp] theorem spelled_asToken (op : BinaryOp) : op.asToken.spelled d = op.asToken := by
  cases op <;> rfl

@[simp] theorem tokensIn_parensPieces (inner : List Piece) :
    tokensIn d (parensPieces inner) = parensTokens (tokensIn d inner) := by
  simp [parensPieces, parensTokens]

@[simp] theorem tokensIn_commaPieces (lists : List (List Piece)) :
    tokensIn d (commaPieces lists) = commaTokens (lists.map (tokensIn d)) := by
  induction lists with
  | nil => rfl
  | cons first rest ih =>
    cases rest with
    | nil => simp [commaPieces, commaTokens]
    | cons second rest => simpa [commaPieces, commaTokens] using ih

@[simp] theorem tokensIn_pieces_bound (bound : Bound) :
    tokensIn d bound.pieces = tokensOf bound.pieces := by
  cases bound <;> rfl

theorem tokensIn_pieces_frame (frame : Frame) :
    tokensIn d frame.pieces = frameTokens (some frame) := by
  obtain ⟨start, stop⟩ := frame
  cases stop with
  | none => cases start <;> rfl
  | some stop => cases start <;> cases stop <;> rfl

theorem tokensIn_overPieces (partition order : List (List Piece)) (frame : Option Frame) :
    tokensIn d (overPieces partition order frame) =
      byTokens "PARTITION" (partition.map (tokensIn d)) ++
        byTokens "ORDER" (order.map (tokensIn d)) ++ frameTokens frame := by
  cases partition <;> cases order <;> cases frame <;>
    simp [overPieces, byTokens, tokensIn_pieces_frame, frameTokens]

end TokensIn

/-! ## Trees the printer is made for -/

namespace Expr

/-- May the tree stand anywhere? Lists, descending entries and text of unknown form may not. -/
def standsAnywhere : Expr → Bool
  | .raw _ | .list _ | .desc _ => false
  | _ => true

/-- May the tree be an entry of an `ORDER BY`? -/
def isOrderable : Expr → Bool
  | .desc _ => true
  | e => e.standsAnywhere

def isCall : Expr → Bool
  | .function .. => true
  | _ => false

/-- May an `OVER` clause follow the tree? -/
def isAggregate : Expr → Bool
  | .function .. | .withinGroup .. => true
  | _ => false

/-- May the tree stand on the right of `IN`? -/
def isCollection : Expr → Bool
  | .list _ | .identifier .. => true
  | _ => false

/-- Do the subtrees of a node stand where such trees may stand? -/
def isWellPlaced : Expr → Bool
  | .literal _ | .identifier .. | .star => true
  | .raw _ => false
  | .list items => items.all standsAnywhere
  | .function name args _ => name ∉ keywords && args.all standsAnywhere
  | .binary l _ r => l.standsAnywhere && r.standsAnywhere
  | .unary _ e | .isNull e | .cast e _ | .desc e => e.standsAnywhere
  | .between e low high => e.standsAnywhere && low.standsAnywhere && high.standsAnywhere
  | .elemOf e items => e.standsAnywhere && items.isCollection
  | .caseWhen branches otherwise =>
    branches.all (fun b ↦ b.1.standsAnywhere && b.2.standsAnywhere) &&
      otherwise.all standsAnywhere
  | .window fn partition order _ =>
    fn.isAggregate && partition.all standsAnywhere && order.all isOrderable
  | .withinGroup fn order => fn.isCall && order.all isOrderable

/-- An expression that holds no text of unknown form, and lists, descending entries, calls and
keywords only where they belong. -/
def IsExpression (e : Expr) : Prop :=
  e.standsAnywhere = true ∧ ∀ s ∈ e.parts, s.isWellPlaced = true

instance (e : Expr) : Decidable e.IsExpression := inferInstanceAs (Decidable (_ ∧ _))

/-! ## The tree a printed text is read as -/

/-- Puts an operand and an operator in front of the leftmost operand of a chain. The chain goes on
through the operators that satisfy `joins`. -/
def graft (joins : BinaryOp → Bool) (l : Expr) (op : BinaryOp) : Expr → Expr
  | .binary l' op' r' =>
    if joins op' then .binary (graft joins l op l') op' r' else .binary l op (.binary l' op' r')
  | r => .binary l op r

def spellLeaf (d : Dialect) : Expr → Expr
  | .literal value => .raw (d.formatLiteral value)
  | e => e

/-- The operators that bind as tightly as another. -/
def sameStrength (op op' : BinaryOp) : Bool := op'.strength = op.strength

/-- The tree as its printed text is read: an operand without parentheses joins the chain on its
left. -/
def reading (d : Dialect) : Expr → Expr :=
  rebuild (spellLeaf d) (fun l op r r' ↦
    if needsParens op .right r then .binary l op r' else graft (sameStrength op) l op r')

/-- The printed tokens of a tree. -/
def tokens (d : Dialect) (e : Expr) : List Token := tokensIn d e.pieces

theorem graft_graft {joins joins' : BinaryOp → Bool} (a : Expr) (op : BinaryOp) (b : Expr)
    {op' : BinaryOp} (c : Expr) (hop : joins op' = true)
    (hle : ∀ o, joins' o = true → joins o = true) :
    graft joins a op (graft joins' b op' c) = graft joins' (graft joins a op b) op' c := by
  induction c using Expr.induction with
  | binary l o r ihl _ =>
    by_cases ho : joins' o = true
    · simp [graft, ho, hle o ho, ihl]
    · simp [graft, ho, hop]
  | _ => simp [graft, hop]

theorem graft_of_strength_ne {op : BinaryOp} (l : Expr) {r : Expr}
    (h : r.strength ≠ op.strength) : graft (sameStrength op) l op r = .binary l op r := by
  cases r with
  | binary l' op' r' =>
    have hop : sameStrength op op' = false := by simpa [sameStrength, strength] using h
    simp [graft, hop]
  | _ => rfl

theorem strength_graft (l : Expr) (op : BinaryOp) (r : Expr) :
    (graft (sameStrength op) l op r).strength = op.strength := by
  cases r with
  | binary l' op' r' =>
    by_cases h : op'.strength = op.strength <;> simp [graft, sameStrength, h, strength]
  | _ => rfl

theorem reading_binary (d : Dialect) (l : Expr) (op : BinaryOp) (r : Expr) :
    reading d (.binary l op r) =
      if needsParens op .right r then .binary (reading d l) op (reading d r)
      else graft (sameStrength op) (reading d l) op (reading d r) := rfl

theorem strength_reading (d : Dialect) (e : Expr) : (reading d e).strength = e.strength := by
  cases e with
  | binary l op r =>
    rw [reading_binary]
    split
    · rfl
    · exact strength_graft _ op _
  | unary op e => cases op <;> rfl
  | _ => rfl

/-! ## What is printed is derived -/

/-- The level at which a tree is derived. -/
def level : Expr → Nat
  | .desc _ => 0
  | .function .. => 11
  | .withinGroup .. => 10
  | e => e.strength.rank + 1

theorem le_level {e : Expr} (h : e.standsAnywhere = true) : e.strength.rank + 1 ≤ e.level := by
  cases e <;> simp_all [standsAnywhere, level, strength, Strength.rank]

/-- The printed text of a tree is read as `reading` says, alone and behind an operator. -/
structure Grouped (d : Dialect) (e : Expr) : Prop where
  derives : Derives e.level (e.tokens d) (e.reading d)
  joins : ∀ (op : BinaryOp) ts l, e.standsAnywhere = true → op.associativity ≠ .neither →
    op.strength.rank ≤ e.strength.rank → Derives op.level ts l →
    Derives op.level (ts ++ op.asToken :: e.tokens d)
      (graft (sameStrength op) l op (e.reading d))

theorem strength_rank_inj {a b : Strength} (h : a.rank = b.rank) : a = b := by
  cases a <;> cases b <;> first | rfl | cases h

theorem strength_ne_of_rank_lt {a b : Strength} (h : a.rank < b.rank) : a ≠ b := by
  rintro rfl
  exact Nat.lt_irrefl _ h

theorem level_binary (l : Expr) (op : BinaryOp) (r : Expr) : level (.binary l op r) = op.level :=
  rfl

namespace Grouped

variable {d : Dialect} {e : Expr}

theorem derives_one (h : Grouped d e) (he : e.standsAnywhere = true) :
    Derives 1 (e.tokens d) (e.reading d) :=
  h.derives.weaken (Nat.le_trans (by omega) (le_level he))

theorem derives_zero (h : Grouped d e) : Derives 0 (e.tokens d) (e.reading d) :=
  h.derives.weaken (Nat.zero_le _)

/-- An operand, with or without parentheses. -/
theorem operand (h : Grouped d e) (he : e.standsAnywhere = true) (needed : Bool) {n : Nat}
    (hn : n ≤ 9) (hneeded : needed = false → n ≤ e.strength.rank + 1) :
    Derives n (tokensIn d (parensPiecesIf needed e.pieces)) (e.reading d) := by
  cases needed with
  | true =>
    have hparens := Derives.parens (h.derives_one he)
    simpa [parensPiecesIf, tokens] using hparens.weaken hn
  | false => exact h.derives.weaken (Nat.le_trans (hneeded rfl) (le_level he))

theorem of_looser {op : BinaryOp} (h : Derives e.level (e.tokens d) (e.reading d))
    (he : e.standsAnywhere = true) (hop : op.associativity ≠ .neither)
    (hlt : op.strength.rank < e.strength.rank) {ts : List Token} {l : Expr}
    (hl : Derives op.level ts l) :
    Derives op.level (ts ++ op.asToken :: e.tokens d)
      (graft (sameStrength op) l op (e.reading d)) := by
  have hne : (e.reading d).strength ≠ op.strength := by
    rw [strength_reading]
    exact (strength_ne_of_rank_lt hlt).symm
  rw [graft_of_strength_ne l hne]
  refine .chain hop hl (h.weaken (Nat.le_trans ?_ (le_level he)))
  rw [BinaryOp.level]
  omega

/-- A tree that is no binary operation is not part of the chain in front of it. -/
theorem of_derives (h : Derives e.level (e.tokens d) (e.reading d))
    (hlevel : e.strength.rank + 1 ∉ chainLevels) : Grouped d e := by
  refine ⟨h, fun op ts l he hop hle hl ↦ of_looser h he hop (Nat.lt_of_le_of_ne hle ?_) hl⟩
  intro heq
  exact hlevel (heq ▸ op.level_mem_chainLevels hop)

theorem of_rule {n : Nat} {ts : List Token} {t : Expr} (h : Derives n ts t)
    (hbinary : ∀ l op r, e ≠ .binary l op r) (hlevel : e.level = n) (htokens : e.tokens d = ts)
    (hreading : e.reading d = t) : Grouped d e := by
  subst hlevel htokens hreading
  refine of_derives h ?_
  cases e with
  | binary l op r => exact absurd rfl (hbinary l op r)
  | unary op e => cases op <;> simp [strength, Strength.rank, chainLevels]
  | _ => simp [strength, Strength.rank, chainLevels]

theorem tokens_binary (d : Dialect) (l : Expr) (op : BinaryOp) (r : Expr) :
    (Expr.binary l op r).tokens d =
      tokensIn d (parensPiecesIf (needsParens op .left l) l.pieces) ++
        op.asToken :: tokensIn d (parensPiecesIf (needsParens op .right r) r.pieces) := by
  simp [tokens, pieces]

theorem rank_le_of_needsParens {op : BinaryOp} {side : Side} {child : Expr}
    (h : needsParens op side child = false) : op.strength.rank ≤ child.strength.rank := by
  unfold needsParens at h
  split at h
  · omega
  · split at h
    · cases h
    · omega

theorem rank_lt_of_needsParens {op : BinaryOp} (hop : op.associativity = .neither) {side : Side}
    {child : Expr} (h : needsParens op side child = false) :
    op.strength.rank < child.strength.rank := by
  unfold needsParens at h
  split at h
  · assumption
  · split at h
    · cases h
    · cases side <;> simp [equalNeedsParens, hop] at h
      split at h <;> cases h

theorem rank_lt_of_needsParens_left {op : BinaryOp} (hop : op.associativity ≠ .neither)
    {child : Expr} (h : needsParens op .left child = true) :
    child.strength.rank < op.strength.rank := by
  unfold needsParens at h
  split at h
  · cases h
  · split at h
    · assumption
    · simp [equalNeedsParens, hop] at h

theorem of_comparison {l r : Expr} {op : BinaryOp} (hop : op.associativity = .neither)
    (hl : Grouped d l) (hr : Grouped d r) (hel : l.standsAnywhere = true)
    (her : r.standsAnywhere = true) : Grouped d (.binary l op r) := by
  have hlevel := op.level_of_neither hop
  have hrank : op.strength.rank = 3 := by
    rw [BinaryOp.level] at hlevel
    omega
  have hleft := hl.operand hel (needsParens op .left l) (n := 5) (by decide)
    (fun h ↦ by have := rank_lt_of_needsParens hop h; omega)
  have hright := hr.operand her (needsParens op .right r) (n := 5) (by decide)
    (fun h ↦ by have := rank_lt_of_needsParens hop h; omega)
  have hreading : reading d (.binary l op r) = .binary (reading d l) op (reading d r) := by
    rw [reading_binary]
    split
    · rfl
    · rename_i h
      refine graft_of_strength_ne _ ?_
      have hlt := rank_lt_of_needsParens hop (Bool.eq_false_iff.2 h)
      rw [strength_reading]
      exact (strength_ne_of_rank_lt hlt).symm
  refine of_derives ?_ ?_
  · rw [tokens_binary, hreading, level_binary, hlevel]
    exact .compare hop hleft hright
  · rw [strength, hrank]
    decide

/-- The right operand of a chaining operator, behind all that is in front of it. -/
theorem right_operand {r : Expr} {op : BinaryOp} (hop : op.associativity ≠ .neither)
    (hr : Grouped d r) (her : r.standsAnywhere = true) {ts : List Token} {l : Expr}
    (hl : Derives op.level ts l) :
    Derives op.level
      (ts ++ op.asToken :: tokensIn d (parensPiecesIf (needsParens op .right r) r.pieces))
      (if needsParens op .right r then .binary l op (reading d r)
        else graft (sameStrength op) l op (reading d r)) := by
  by_cases hneeded : needsParens op .right r = true
  · have hright := hr.operand her true (n := op.level + 1)
      (by have := op.level_le; omega) nofun
    simpa [hneeded] using Derives.chain hop hl hright
  · have hle := rank_le_of_needsParens (Bool.eq_false_iff.2 hneeded)
    simpa [hneeded, parensPiecesIf, tokens] using hr.joins op ts l her hop hle hl

/-- The left operand of a chaining operator, behind an operator that binds as tightly. -/
theorem left_operand {l : Expr} {op op' : BinaryOp} (hop : op.associativity ≠ .neither)
    (hop' : op'.associativity ≠ .neither) (heq : op'.strength = op.strength) (hl : Grouped d l)
    (hel : l.standsAnywhere = true) {ts : List Token} {first : Expr}
    (hfirst : Derives op'.level ts first) :
    Derives op'.level
      (ts ++ op'.asToken :: tokensIn d (parensPiecesIf (needsParens op .left l) l.pieces))
      (graft (sameStrength op') first op' (reading d l)) := by
  by_cases hneeded : needsParens op .left l = true
  · have hright := hl.operand hel true (n := op'.level + 1)
      (by have := op'.level_le; omega) nofun
    have hlt := rank_lt_of_needsParens_left hop hneeded
    have hne : (reading d l).strength ≠ op'.strength := by
      rw [strength_reading, heq]
      exact strength_ne_of_rank_lt hlt
    rw [graft_of_strength_ne _ hne]
    simpa [hneeded] using Derives.chain hop' hfirst hright
  · have hle := rank_le_of_needsParens (Bool.eq_false_iff.2 hneeded)
    simpa [hneeded, parensPiecesIf, tokens] using hl.joins op' ts first hel hop' (heq ▸ hle) hfirst

theorem of_chain {l r : Expr} {op : BinaryOp} (hop : op.associativity ≠ .neither)
    (hl : Grouped d l) (hr : Grouped d r) (hel : l.standsAnywhere = true)
    (her : r.standsAnywhere = true) : Grouped d (.binary l op r) := by
  have hleft := hl.operand hel (needsParens op .left l) (n := op.level)
    (by have := op.level_le; omega) (fun h ↦ Nat.succ_le_succ (rank_le_of_needsParens h))
  have hderives : Derives (level (.binary l op r)) (tokens d (.binary l op r))
      (reading d (.binary l op r)) := by
    rw [tokens_binary, reading_binary]
    exact right_operand hop hr her hleft
  refine ⟨hderives, fun op' ts first he hop' hle hfirst ↦ ?_⟩
  rcases Nat.lt_or_eq_of_le hle with hlt | heq
  · exact of_looser hderives he hop' hlt hfirst
  have heq : op'.strength = op.strength := strength_rank_inj heq
  have hlevel : op'.level = op.level := by rw [BinaryOp.level, BinaryOp.level, heq]
  have hboth := left_operand hop hop' heq hl hel hfirst
  have hsame : sameStrength op' op = true := by simp [sameStrength, heq]
  have hgraft : graft (sameStrength op') first op' (reading d (.binary l op r)) =
      if needsParens op .right r then
        .binary (graft (sameStrength op') first op' (reading d l)) op (reading d r)
      else graft (sameStrength op) (graft (sameStrength op') first op' (reading d l)) op
        (reading d r) := by
    rw [reading_binary]
    split
    · simp [graft, hsame]
    · exact graft_graft first op' _ _ hsame (by simp [sameStrength, heq])
  rw [tokens_binary, hgraft, hlevel, ← List.cons_append, ← List.append_assoc]
  exact right_operand hop hr her (hlevel ▸ hboth)

end Grouped

/-- What the induction keeps: a list is not an expression, but its items are. -/
def Readable (d : Dialect) : Expr → Prop
  | .list items => ∀ e ∈ items, Grouped d e
  | .raw _ => True
  | e => Grouped d e

theorem isOrderable_of_standsAnywhere {e : Expr} (h : e.standsAnywhere = true) :
    e.isOrderable = true := by
  cases e <;> first | exact h | rfl

namespace Readable

variable {d : Dialect} {e : Expr}

theorem grouped (h : Readable d e) (he : e.isOrderable = true) : Grouped d e := by
  cases e <;> first | exact h | cases he

theorem derives_one (h : Readable d e) (he : e.standsAnywhere = true) :
    Derives 1 (e.tokens d) (e.reading d) :=
  (h.grouped (isOrderable_of_standsAnywhere he)).derives_one he

theorem comparand (h : Readable d e) (he : e.standsAnywhere = true) :
    Derives 5 (tokensIn d (parensPiecesIf (comparisonNeedsParens e) e.pieces)) (e.reading d) := by
  refine (h.grouped (isOrderable_of_standsAnywhere he)).operand he _ (by decide) (fun hneeded ↦ ?_)
  have hlt := Nat.lt_of_not_le (of_decide_eq_false hneeded)
  exact Nat.succ_le_succ hlt

end Readable

/-- The phrases that trees are printed as. -/
def phrases (d : Dialect) (items : List Expr) : List Phrase :=
  items.map (fun e ↦ (e.tokens d, e.reading d))

theorem derives_phrases {d : Dialect} {items : List Expr} (h : ∀ e ∈ items, Readable d e)
    (hitems : items.all standsAnywhere = true) : ∀ p ∈ phrases d items, Derives 1 p.1 p.2 := by
  intro p hp
  obtain ⟨e, he, rfl⟩ := List.mem_map.1 hp
  exact (h e he).derives_one (List.all_eq_true.1 hitems e he)

theorem derives_orders {d : Dialect} {items : List Expr} (h : ∀ e ∈ items, Readable d e)
    (hitems : items.all isOrderable = true) : ∀ p ∈ phrases d items, Derives 0 p.1 p.2 := by
  intro p hp
  obtain ⟨e, he, rfl⟩ := List.mem_map.1 hp
  exact ((h e he).grouped (List.all_eq_true.1 hitems e he)).derives_zero

theorem map_fst_phrases (d : Dialect) (items : List Expr) :
    (phrases d items).map Prod.fst = (piecesAll items).map (tokensIn d) := by
  simp [phrases, piecesAll_eq_map, tokens]

/-- The phrase of a tree in parentheses. -/
def parensPhrase (d : Dialect) (e : Expr) : Phrase := (parensTokens (e.tokens d), e.reading d)

theorem Readable.derives_parens {d : Dialect} {e : Expr} (h : Readable d e)
    (he : e.standsAnywhere = true) : Derives 1 (parensPhrase d e).1 (parensPhrase d e).2 :=
  (Derives.parens (h.derives_one he)).weaken (by decide)

theorem tokens_caseWhen (d : Dialect) (branches : List (Expr × Expr)) (otherwise : Option Expr) :
    (Expr.caseWhen branches otherwise).tokens d =
      .word "CASE" ::
        ((branches.map (fun b ↦ (parensPhrase d b.1, parensPhrase d b.2))).flatMap branchTokens ++
          elseTokens (otherwise.map (parensPhrase d)) ++ [.word "END"]) := by
  have hbranches : (branches.map branchPieces).flatMap (tokensIn d) =
      (branches.map (fun b ↦ (parensPhrase d b.1, parensPhrase d b.2))).flatMap branchTokens := by
    rw [List.flatMap_map, List.flatMap_map]
    congr 1
    funext b
    simp [branchPieces, branchTokens, parensPhrase, tokens]
  have helse : tokensIn d (piecesElse otherwise) =
      elseTokens (otherwise.map (parensPhrase d)) := by
    cases otherwise <;> simp [piecesElse, elseTokens, parensPhrase, tokens]
  simp [tokens, pieces, tokensIn_flatten, piecesBranches_eq_map, hbranches, helse]

theorem readable (d : Dialect) (e : Expr) (h : ∀ s ∈ e.parts, s.isWellPlaced = true) :
    Readable d e := by
  induction e using Expr.induction_children with
  | node e ih =>
  have hchild : ∀ c ∈ e.children, Readable d c :=
    fun c hc ↦ ih c hc (fun s hs ↦ h s (mem_parts_of_child hc hs))
  have hplaced := h e (mem_parts_self e)
  cases e with
  | literal value => exact .of_rule (.verbatim _) (by simp) rfl rfl rfl
  | identifier qualifier name =>
    refine .of_rule (.column qualifier name) (by simp) rfl ?_ rfl
    cases qualifier <;> rfl
  | star => exact .of_rule .star (by simp) rfl rfl rfl
  | raw text => trivial
  | list items =>
    intro e he
    exact (hchild e he).grouped
      (isOrderable_of_standsAnywhere (List.all_eq_true.1 hplaced e he))
  | function name args distinct =>
    simp only [isWellPlaced, Bool.and_eq_true, decide_eq_true_eq] at hplaced
    have hargs : ∀ p ∈ phrases d args, Derives 1 p.1 p.2 := derives_phrases hchild hplaced.2
    refine .of_rule (.call distinct hplaced.1 hargs) (by simp) rfl ?_ ?_
    · rw [map_fst_phrases]
      cases distinct <;> simp [tokens, pieces, distinctTokens]
    · simp [reading, rebuild, rebuildAll_eq_map, phrases]
  | binary l op r =>
    simp only [isWellPlaced, Bool.and_eq_true] at hplaced
    have hl := (hchild l (by simp [children])).grouped (isOrderable_of_standsAnywhere hplaced.1)
    have hr := (hchild r (by simp [children])).grouped (isOrderable_of_standsAnywhere hplaced.2)
    -- Comparisons do not chain, so neither of their operands may be a comparison.
    by_cases hop : op.associativity = .neither
    · exact .of_comparison hop hl hr hplaced.1 hplaced.2
    · exact .of_chain hop hl hr hplaced.1 hplaced.2
  | unary op e =>
    have hinner := Derives.parens ((hchild e (by simp [children])).derives_one hplaced)
    cases op with
    | not =>
      exact .of_rule (.not (hinner.weaken (by decide))) (by simp) rfl (by simp [tokens, pieces]) rfl
    | neg =>
      exact .of_rule (.neg (hinner.weaken (by decide))) (by simp) rfl (by simp [tokens, pieces]) rfl
  | isNull e =>
    have hinner := Derives.parens ((hchild e (by simp [children])).derives_one hplaced)
    have hnull := Derives.isNull (hinner.weaken (by decide))
    exact .of_rule (.parens (hnull.weaken (by decide))) (by simp) rfl (by simp [tokens, pieces]) rfl
  | between e low high =>
    simp only [isWellPlaced, Bool.and_eq_true] at hplaced
    have he := (hchild e (by simp [children])).comparand hplaced.1.1
    have hlow := (hchild low (by simp [children])).comparand hplaced.1.2
    have hhigh := (hchild high (by simp [children])).comparand hplaced.2
    exact .of_rule (.between he hlow hhigh) (by simp) rfl (by simp [tokens, pieces]) rfl
  | elemOf e items =>
    simp only [isWellPlaced, Bool.and_eq_true] at hplaced
    have he := (hchild e (by simp [children])).comparand hplaced.1
    have hitems := hchild items (by simp [children])
    -- Behind `IN`, only a list or a column is well placed.
    cases items with
    | list items =>
      have hlist : ∀ p ∈ phrases d items, Derives 1 p.1 p.2 := by
        have hwell := h (.list items) (mem_parts_of_child (by simp [children]) (mem_parts_self _))
        intro p hp
        obtain ⟨x, hx, rfl⟩ := List.mem_map.1 hp
        exact (hitems x hx).derives_one (List.all_eq_true.1 hwell x hx)
      refine .of_rule (.elemOfList he hlist) (by simp) rfl ?_ ?_
      · simp [tokens, pieces, map_fst_phrases]
      · simp [reading, rebuild, rebuildAll_eq_map, phrases]
    | identifier qualifier name =>
      refine .of_rule (.elemOfColumn qualifier name he) (by simp) rfl ?_ rfl
      cases qualifier <;> simp [tokens, pieces, columnTokens, Token.spelled]
    | _ => exact absurd hplaced.2 (by simp [isCollection])
  | caseWhen branches otherwise =>
    simp only [isWellPlaced, Bool.and_eq_true, List.all_eq_true] at hplaced
    have hbranch (b : Expr × Expr) (hb : b ∈ branches) : Readable d b.1 ∧ Readable d b.2 := by
      constructor <;>
        exact hchild _ (List.mem_append_left _ (List.mem_flatMap.2 ⟨b, hb, by simp⟩))
    have hlast (e : Expr) (he : e ∈ otherwise) : Readable d e :=
      hchild e (List.mem_append_right _ (Option.mem_toList.2 he))
    refine .of_rule (@Derives.caseWhen
      (branches.map (fun b ↦ (parensPhrase d b.1, parensPhrase d b.2)))
      (otherwise.map (parensPhrase d)) ?_ ?_ ?_) (by simp) rfl ?_ ?_
    · simp only [List.mem_map]
      rintro _ ⟨b, hb, rfl⟩
      exact (hbranch b hb).1.derives_parens (hplaced.1 b hb).1
    · simp only [List.mem_map]
      rintro _ ⟨b, hb, rfl⟩
      exact (hbranch b hb).2.derives_parens (hplaced.1 b hb).2
    · simp only [Option.mem_def, Option.map_eq_some_iff]
      rintro _ ⟨e, he, rfl⟩
      exact (hlast e he).derives_parens ((Option.all_eq_true _ _).1 hplaced.2 e he)
    · rw [tokens_caseWhen]
    · cases otherwise <;>
        simp [reading, rebuild, rebuildBranches_eq_map, rebuildOption_eq_map, parensPhrase]
  | cast e type =>
    have hinner := (hchild e (by simp [children])).derives_one hplaced
    exact .of_rule (.cast type hinner) (by simp) rfl (by simp [tokens, pieces, Token.spelled]) rfl
  | window fn partition order frame =>
    simp only [isWellPlaced, Bool.and_eq_true] at hplaced
    obtain ⟨⟨hfn, hpartition⟩, horder⟩ := hplaced
    have hfirst : Derives 10 (fn.tokens d) (fn.reading d) := by
      have hread := hchild fn (by simp [children])
      cases fn with
      | function name args distinct => exact hread.derives.weaken (Nat.le_succ 10)
      | withinGroup fn order => exact hread.derives
      | _ => cases hfn
    have hp := derives_phrases (fun e he ↦ hchild e (by simp [children, he])) hpartition
    have ho := derives_orders (fun e he ↦ hchild e (by simp [children, he])) horder
    refine .of_rule (.window frame hfirst hp ho) (by simp) rfl ?_ ?_
    · simp [tokens, pieces, map_fst_phrases, tokensIn_overPieces]
    · simp [reading, rebuild, rebuildAll_eq_map, phrases]
  | withinGroup fn order =>
    simp only [isWellPlaced, Bool.and_eq_true] at hplaced
    have hfirst : Derives 11 (fn.tokens d) (fn.reading d) := by
      have hread := hchild fn (by simp [children])
      cases fn with
      | function name args distinct => exact hread.derives
      | _ => cases hplaced.1
    have ho := derives_orders (fun e he ↦ hchild e (by simp [children, he])) hplaced.2
    refine .of_rule (.withinGroup hfirst ho) (by simp) rfl ?_ ?_
    · simp [tokens, pieces, map_fst_phrases]
    · simp [reading, rebuild, rebuildAll_eq_map, phrases]
  | desc e =>
    have hinner := (hchild e (by simp [children])).derives_one hplaced
    exact .of_rule (.descending hinner) (by simp) rfl (by simp [tokens, pieces]) rfl

/-- The printed text of an expression is read as `reading` says, and as nothing else. -/
theorem derives_iff_eq_reading (d : Dialect) {e : Expr} (h : e.IsExpression) (t : Expr) :
    Derives 1 (e.tokens d) t ↔ t = e.reading d := by
  have hreading := (readable d e h.2).derives_one h.1
  constructor
  · intro ht
    exact ht.unique hreading
  · rintro rfl
    exact hreading

end Expr

end SqlVerbs.Sql
