import SqlVerbs.Proofs.Sql.Token

/-!
# The grammar of expressions

Level `0` is an entry of an `ORDER BY`. Above it stands one level for each binding strength, from
`OR` at level `1` to the atoms at level `9`. Among the atoms, level `10` is what an `OVER` clause
may follow, and level `11` the calls. Binary operators group to the left, and comparisons do not
chain.
-/

namespace SqlVerbs.Sql

/-- The words of the grammar. -/
def keywords : List String :=
  ["AND", "AS", "BETWEEN", "BY", "CASE", "CAST", "CURRENT", "DESC", "DISTINCT", "ELSE", "END",
    "FOLLOWING", "GROUP", "IN", "IS", "LIKE", "NOT", "NULL", "OR", "ORDER", "OVER", "PARTITION",
    "PRECEDING", "ROW", "ROWS", "THEN", "UNBOUNDED", "WHEN", "WITHIN"]

/-- The level at which an operator is derived. -/
def BinaryOp.level (op : BinaryOp) : Nat := op.strength.rank + 1

theorem BinaryOp.level_le (op : BinaryOp) : op.level ≤ 7 := by
  cases op <;> simp [level, strength, Strength.rank]

/-- Tokens and the tree that they stand for. -/
abbrev Phrase := List Token × Expr

def commaTokens (lists : List (List Token)) : List Token := [.symbol ","].intercalate lists

def parensTokens (inner : List Token) : List Token := .symbol "(" :: (inner ++ [.symbol ")"])

def distinctTokens (distinct : Bool) : List Token := if distinct then [.word "DISTINCT"] else []

def columnTokens : Option String → String → List Token
  | none, name => [.identifier name]
  | some qualifier, name => [.identifier qualifier, .symbol ".", .identifier name]

/-- A clause of an `OVER`, unless it is empty. -/
def byTokens (word : String) (lists : List (List Token)) : List Token :=
  if lists.isEmpty then [] else .word word :: .word "BY" :: commaTokens lists

def frameTokens (frame : Option Frame) : List Token :=
  frame.toList.flatMap (fun frame ↦ tokensOf frame.pieces)

def branchTokens (b : Phrase × Phrase) : List Token :=
  .word "WHEN" :: (b.1.1 ++ .word "THEN" :: b.2.1)

def elseTokens (otherwise : Option Phrase) : List Token :=
  otherwise.toList.flatMap (fun p ↦ .word "ELSE" :: p.1)

/-- `Derives level tokens tree` says that the tokens are an expression of the level, grouped as the
tree. -/
inductive Derives : Nat → List Token → Expr → Prop
  | descending {ts e} : Derives 1 ts e → Derives 0 (ts ++ [.word "DESC"]) (.desc e)
  | tighter {n ts e} : Derives (n + 1) ts e → Derives n ts e
  | chain {op : BinaryOp} {ts us l r} : op.associativity ≠ .neither → Derives op.level ts l →
      Derives (op.level + 1) us r → Derives op.level (ts ++ op.asToken :: us) (.binary l op r)
  | not {ts e} : Derives 3 ts e → Derives 3 (.word "NOT" :: ts) (.unary .not e)
  | compare {op : BinaryOp} {ts us l r} : op.associativity = .neither → Derives 5 ts l →
      Derives 5 us r → Derives 4 (ts ++ op.asToken :: us) (.binary l op r)
  | isNull {ts e} : Derives 5 ts e → Derives 4 (ts ++ [.word "IS", .word "NULL"]) (.isNull e)
  | between {ts us vs e low high} : Derives 5 ts e → Derives 5 us low → Derives 5 vs high →
      Derives 4 (ts ++ .word "BETWEEN" :: (us ++ .word "AND" :: vs)) (.between e low high)
  | elemOfList {ts e} {items : List Phrase} : Derives 5 ts e → (∀ p ∈ items, Derives 1 p.1 p.2) →
      Derives 4 (ts ++ .word "IN" :: parensTokens (commaTokens (items.map Prod.fst)))
        (.elemOf e (.list (items.map Prod.snd)))
  | elemOfColumn {ts e} (qualifier name) : Derives 5 ts e →
      Derives 4 (ts ++ .word "IN" :: columnTokens qualifier name)
        (.elemOf e (.identifier qualifier name))
  | neg {ts e} : Derives 8 ts e → Derives 8 (.symbol "-" :: ts) (.unary .neg e)
  | verbatim (text) : Derives 9 [.verbatim text] (.raw text)
  | column (qualifier name) : Derives 9 (columnTokens qualifier name) (.identifier qualifier name)
  | star : Derives 9 [.symbol "*"] .star
  | parens {ts e} : Derives 1 ts e → Derives 9 (parensTokens ts) e
  | caseWhen {branches : List (Phrase × Phrase)} {otherwise : Option Phrase} :
      (∀ b ∈ branches, Derives 1 b.1.1 b.1.2) → (∀ b ∈ branches, Derives 1 b.2.1 b.2.2) →
      (∀ p ∈ otherwise, Derives 1 p.1 p.2) →
      Derives 9
        (.word "CASE" :: (branches.flatMap branchTokens ++ elseTokens otherwise ++ [.word "END"]))
        (.caseWhen (branches.map (fun b ↦ (b.1.2, b.2.2))) (otherwise.map Prod.snd))
  | cast {ts e} (type) : Derives 1 ts e →
      Derives 9 (.word "CAST" :: parensTokens (ts ++ [.word "AS", .typeName type])) (.cast e type)
  | window {ts fn} {partition order : List Phrase} (frame : Option Frame) : Derives 10 ts fn →
      (∀ p ∈ partition, Derives 1 p.1 p.2) → (∀ p ∈ order, Derives 0 p.1 p.2) →
      Derives 9
        (ts ++ .word "OVER" :: parensTokens (byTokens "PARTITION" (partition.map Prod.fst) ++
          byTokens "ORDER" (order.map Prod.fst) ++ frameTokens frame))
        (.window fn (partition.map Prod.snd) (order.map Prod.snd) frame)
  | withinGroup {ts fn} {order : List Phrase} : Derives 11 ts fn →
      (∀ p ∈ order, Derives 0 p.1 p.2) →
      Derives 10
        (ts ++ .word "WITHIN" :: .word "GROUP" :: parensTokens (.word "ORDER" :: .word "BY" ::
          commaTokens (order.map Prod.fst)))
        (.withinGroup fn (order.map Prod.snd))
  | call {name} {args : List Phrase} (distinct : Bool) : name ∉ keywords →
      (∀ p ∈ args, Derives 1 p.1 p.2) →
      Derives 11
        (.word name :: parensTokens (distinctTokens distinct ++ commaTokens (args.map Prod.fst)))
        (.function name (args.map Prod.snd) distinct)

/-! ## First tokens -/

/-- May a token stand first in an expression of a level? -/
def Token.starts (level : Nat) : Token → Bool
  | .word "NOT" => level ≤ 3
  | .symbol "-" => level ≤ 8
  | .symbol "*" | .symbol "(" | .verbatim _ | .identifier _ => level ≤ 9
  | .word "CASE" | .word "CAST" => level ≤ 9
  | .word text => text ∉ keywords
  | _ => false

attribute [grind =] Token.starts

theorem Token.starts_mono {t : Token} {n m : Nat} (hle : m ≤ n) (h : t.starts n = true) :
    t.starts m = true := by
  revert h
  unfold Token.starts
  split <;> simp <;> omega

theorem Token.starts_word {n : Nat} {name : String} (h : name ∉ keywords) :
    (Token.word name).starts n = true := by
  unfold Token.starts
  split <;> rename_i heq
  all_goals first
    | exact absurd rfl (heq name)
    | cases heq <;> first | exact absurd (by decide) h | exact decide_eq_true h

theorem Derives.head {n : Nat} {ts : List Token} {e : Expr} (h : Derives n ts e) :
    ∃ t more, ts = t :: more ∧ t.starts n = true := by
  induction h with
  | descending _ ih =>
    obtain ⟨t, more, rfl, ht⟩ := ih
    exact ⟨t, _, rfl, t.starts_mono (by omega) ht⟩
  | tighter _ ih =>
    obtain ⟨t, more, rfl, ht⟩ := ih
    exact ⟨t, _, rfl, t.starts_mono (by omega) ht⟩
  | chain _ _ _ ih _ =>
    obtain ⟨t, more, rfl, ht⟩ := ih
    exact ⟨t, _, rfl, ht⟩
  | compare _ _ _ ih _ | isNull _ ih | between _ _ _ ih _ _ | elemOfList _ _ ih _
  | elemOfColumn _ _ _ ih | window _ _ _ _ ih _ _ | withinGroup _ _ ih _ =>
    obtain ⟨t, more, rfl, ht⟩ := ih
    exact ⟨t, _, rfl, t.starts_mono (by omega) ht⟩
  | not _ _ | neg _ _ | verbatim _ | star | parens _ _ | caseWhen _ _ _ _ _ _ | cast _ _ _ =>
    exact ⟨_, _, rfl, rfl⟩
  | column qualifier name =>
    cases qualifier with
    | none => exact ⟨_, _, rfl, rfl⟩
    | some qualifier => exact ⟨_, _, rfl, rfl⟩
  | @call name args distinct hname _ _ =>
    exact ⟨_, _, rfl, Token.starts_word hname⟩

theorem Derives.level_le {n : Nat} {ts : List Token} {e : Expr} (h : Derives n ts e) :
    n ≤ 11 := by
  induction h with
  | @chain op _ _ _ _ _ _ _ _ _ => exact Nat.le_trans op.level_le (by decide)
  | _ => omega

theorem Derives.weaken {n m : Nat} {ts : List Token} {e : Expr} (h : Derives n ts e)
    (hle : m ≤ n) : Derives m ts e := by
  induction hle with
  | refl => exact h
  | step _ ih => exact ih h.tighter

end SqlVerbs.Sql
