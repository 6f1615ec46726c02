import SqlVerbs.Proofs.Sql.Grammar

/-!
# The grammar is unambiguous

A reader that looks one token ahead, and which is bounded in the depth of its recursion, finds every
tree that the grammar derives. So there is at most one.
-/

namespace SqlVerbs.Sql

/-- The operator that a token stands for. -/
def Token.operator? : Token → Option BinaryOp
  | .custom text => some (.custom text)
  | .word "AND" => some .and
  | .word "OR" => some .or
  | .word "LIKE" => some .like
  | .symbol "+" => some .add
  | .symbol "-" => some .sub
  | .symbol "*" => some .mul
  | .symbol "/" => some .div
  | .symbol "%" => some .mod
  | .symbol "||" => some .concat
  | .symbol "=" => some .eq
  | .symbol "!=" => some .ne
  | .symbol "<" => some .lt
  | .symbol "<=" => some .le
  | .symbol ">" => some .gt
  | .symbol ">=" => some .ge
  | _ => none

/-- The operator of a level at the head of the input. -/
def nextOperator (level : Nat) : List Token → Option (BinaryOp × List Token)
  | t :: rest => (t.operator?.filter (fun op ↦ op.level = level)).map (·, rest)
  | [] => none

/-- The input after a token. -/
def skip (t : Token) : List Token → Option (List Token)
  | head :: rest => if head = t then some rest else none
  | [] => none

def readColumn : List Token → Option (Expr × List Token)
  | .identifier qualifier :: .symbol "." :: .identifier name :: rest =>
    some (.identifier (some qualifier) name, rest)
  | .identifier name :: rest => some (.identifier none name, rest)
  | _ => none

def readBound : List Token → Option (Bound × List Token)
  | .word "UNBOUNDED" :: .word "PRECEDING" :: rest => some (.unboundedPreceding, rest)
  | .rows count :: .word "PRECEDING" :: rest => some (.preceding count, rest)
  | .word "CURRENT" :: .word "ROW" :: rest => some (.currentRow, rest)
  | .rows count :: .word "FOLLOWING" :: rest => some (.following count, rest)
  | .word "UNBOUNDED" :: .word "FOLLOWING" :: rest => some (.unboundedFollowing, rest)
  | _ => none

def readFrame : List Token → Option (Option Frame × List Token)
  | .word "ROWS" :: .word "BETWEEN" :: rest => do
    let (start, rest) ← readBound rest
    let (stop, rest) ← readBound (← skip (.word "AND") rest)
    some (some ⟨start, some stop⟩, rest)
  | .word "ROWS" :: rest => do
    let (start, rest) ← readBound rest
    some (some ⟨start, none⟩, rest)
  | input => some (none, input)

/-- The rest of an entry of an `ORDER BY`. -/
def readDescending (e : Expr) : List Token → Expr × List Token
  | .word "DESC" :: rest => (.desc e, rest)
  | rest => (e, rest)

mutual

/-- Reads an expression of a level from the head of the input. The first argument bounds the depth
of the recursion. -/
def readLevel : Nat → Nat → List Token → Option (Expr × List Token)
  | 0, _, _ => none
  | fuel + 1, level, input =>
    match level with
    | 0 => (readLevel fuel 1 input).map (fun out ↦ readDescending out.1 out.2)
    | 3 =>
      match input with
      | .word "NOT" :: input =>
        (readLevel fuel 3 input).map (fun out ↦ (.unary .not out.1, out.2))
      | input => readLevel fuel 4 input
    | 4 => (readLevel fuel 5 input).bind (fun out ↦ readComparison fuel out.1 out.2)
    | 8 =>
      match input with
      | .symbol "-" :: input =>
        (readLevel fuel 8 input).map (fun out ↦ (.unary .neg out.1, out.2))
      | input => readLevel fuel 9 input
    | 9 => readAtom fuel input
    | 10 => (readLevel fuel 11 input).bind (fun out ↦ readWithin fuel out.1 out.2)
    | 11 => readCall fuel input
    | level =>
      (readLevel fuel (level + 1) input).bind (fun out ↦ readChain fuel level out.1 out.2)
termination_by structural fuel => fuel

/-- Reads the operators of a level and their right operands. -/
def readChain : Nat → Nat → Expr → List Token → Option (Expr × List Token)
  | 0, _, _, _ => none
  | fuel + 1, level, l, input =>
    match nextOperator level input with
    | some (op, rest) => (readLevel fuel (level + 1) rest).bind
        (fun out ↦ readChain fuel level (.binary l op out.1) out.2)
    | none => some (l, input)
termination_by structural fuel => fuel

/-- Reads what may follow the left operand of a comparison. -/
def readComparison : Nat → Expr → List Token → Option (Expr × List Token)
  | 0, _, _ => none
  | fuel + 1, e, input =>
    match nextOperator 4 input with
    | some (op, rest) => (readLevel fuel 5 rest).map (fun out ↦ (.binary e op out.1, out.2))
    | none =>
      match input with
      | .word "IS" :: .word "NULL" :: rest => some (.isNull e, rest)
      | .word "BETWEEN" :: rest =>
        (readLevel fuel 5 rest).bind (fun low ↦ (skip (.word "AND") low.2).bind (fun rest ↦
          (readLevel fuel 5 rest).map (fun high ↦ (.between e low.1 high.1, high.2))))
      | .word "IN" :: .symbol "(" :: rest =>
        (readList fuel 1 rest).bind (fun items ↦ (skip (.symbol ")") items.2).map (fun rest ↦
          (.elemOf e (.list items.1), rest)))
      | .word "IN" :: rest => (readColumn rest).map (fun out ↦ (.elemOf e out.1, out.2))
      | rest => some (e, rest)
termination_by structural fuel => fuel

def readAtom : Nat → List Token → Option (Expr × List Token)
  | 0, _ => none
  | fuel + 1, input =>
    match input with
    | .verbatim text :: rest => some (.raw text, rest)
    | .symbol "*" :: rest => some (.star, rest)
    | .symbol "(" :: rest =>
      (readLevel fuel 1 rest).bind (fun out ↦
        (skip (.symbol ")") out.2).map (fun rest ↦ (out.1, rest)))
    | .word "CASE" :: rest =>
      (readBranches fuel rest).bind (fun branches ↦ (readElse fuel branches.2).bind (fun last ↦
        (skip (.word "END") last.2).map (fun rest ↦ (.caseWhen branches.1 last.1, rest))))
    | .word "CAST" :: .symbol "(" :: rest =>
      (readLevel fuel 1 rest).bind (fun out ↦ (skip (.word "AS") out.2).bind (fun
        | .typeName type :: rest =>
          (skip (.symbol ")") rest).map (fun rest ↦ (.cast out.1 type, rest))
        | _ => none))
    | .identifier name :: rest => readColumn (.identifier name :: rest)
    | rest => (readLevel fuel 10 rest).bind (fun out ↦ readOver fuel out.1 out.2)
termination_by structural fuel => fuel

/-- Reads the `OVER` clause that may follow an aggregate. -/
def readOver : Nat → Expr → List Token → Option (Expr × List Token)
  | 0, _, _ => none
  | fuel + 1, fn, input =>
    match input with
    | .word "OVER" :: .symbol "(" :: rest =>
      (readBy fuel "PARTITION" 1 rest).bind (fun partition ↦
        (readBy fuel "ORDER" 0 partition.2).bind (fun order ↦
          (readFrame order.2).bind (fun frame ↦ (skip (.symbol ")") frame.2).map (fun rest ↦
            (.window fn partition.1 order.1 frame.1, rest)))))
    | rest => some (fn, rest)
termination_by structural fuel => fuel

/-- Reads the `WITHIN GROUP` clause that may follow a call. -/
def readWithin : Nat → Expr → List Token → Option (Expr × List Token)
  | 0, _, _ => none
  | fuel + 1, fn, input =>
    match input with
    | .word "WITHIN" :: .word "GROUP" :: .symbol "(" :: .word "ORDER" :: .word "BY" :: rest =>
      (readList fuel 0 rest).bind (fun order ↦ (skip (.symbol ")") order.2).map (fun rest ↦
        (.withinGroup fn order.1, rest)))
    | rest => some (fn, rest)
termination_by structural fuel => fuel

def readCall : Nat → List Token → Option (Expr × List Token)
  | 0, _ => none
  | fuel + 1, input =>
    match input with
    | .word name :: .symbol "(" :: .word "DISTINCT" :: rest =>
      (readList fuel 1 rest).bind (fun args ↦ (skip (.symbol ")") args.2).map (fun rest ↦
        (.function name args.1 true, rest)))
    | .word name :: .symbol "(" :: rest =>
      (readList fuel 1 rest).bind (fun args ↦ (skip (.symbol ")") args.2).map (fun rest ↦
        (.function name args.1 false, rest)))
    | _ => none
termination_by structural fuel => fuel

/-- Reads a clause of an `OVER`. -/
def readBy : Nat → String → Nat → List Token → Option (List Expr × List Token)
  | 0, _, _, _ => none
  | fuel + 1, word, level, input =>
    match input with
    | .word head :: .word "BY" :: rest =>
      if head = word then readList fuel level rest else some ([], input)
    | rest => some ([], rest)
termination_by structural fuel => fuel

/-- Reads expressions with commas between them. -/
def readList : Nat → Nat → List Token → Option (List Expr × List Token)
  | 0, _, _ => none
  | fuel + 1, level, input =>
    match input with
    | .symbol ")" :: rest => some ([], .symbol ")" :: rest)
    | input =>
      (readLevel fuel level input).bind (fun out ↦
        match out.2 with
        | .symbol "," :: rest =>
          (readList fuel level rest).map (fun more ↦ (out.1 :: more.1, more.2))
        | rest => some ([out.1], rest))
termination_by structural fuel => fuel

def readBranches : Nat → List Token → Option (List (Expr × Expr) × List Token)
  | 0, _ => none
  | fuel + 1, input =>
    match input with
    | .word "WHEN" :: rest =>
      (readLevel fuel 1 rest).bind (fun cond ↦ (skip (.word "THEN") cond.2).bind (fun rest ↦
        (readLevel fuel 1 rest).bind (fun value ↦
          (readBranches fuel value.2).map (fun more ↦ ((cond.1, value.1) :: more.1, more.2)))))
    | rest => some ([], rest)
termination_by structural fuel => fuel

def readElse : Nat → List Token → Option (Option Expr × List Token)
  | 0, _ => none
  | fuel + 1, input =>
    match input with
    | .word "ELSE" :: rest => (readLevel fuel 1 rest).map (fun out ↦ (some out.1, out.2))
    | rest => some (none, rest)
termination_by structural fuel => fuel

end

/-! ## Results that no longer depend on the bound -/

/-- From some bound on the result is `a`. -/
def Settles {α : Type} (read : Nat → Option α) (a : α) : Prop := ∃ n, ∀ m ≥ n, read m = some a

namespace Settles

variable {α β : Type} {read : Nat → Option α} {a : α} {b : β}

theorem unique {a' : α} (h : Settles read a) (h' : Settles read a') : a = a' := by
  obtain ⟨n, hn⟩ := h
  obtain ⟨n', hn'⟩ := h'
  have hmax := (hn (max n n') (Nat.le_max_left n n')).symm.trans (hn' _ (Nat.le_max_right n n'))
  exact Option.some.inj hmax

theorem of_succ (h : Settles (fun fuel ↦ read (fuel + 1)) a) : Settles read a := by
  obtain ⟨n, hn⟩ := h
  refine ⟨n + 1, fun m hm ↦ ?_⟩
  obtain ⟨m, rfl⟩ := Nat.exists_eq_add_of_le' hm
  exact hn (m + n) (Nat.le_add_left n m)

theorem const : Settles (fun _ ↦ some a) a := ⟨0, fun _ _ ↦ rfl⟩

theorem bind {next : Nat → α → Option β} (h : Settles read a) (hnext : Settles (next · a) b) :
    Settles (fun fuel ↦ (read fuel).bind (next fuel)) b := by
  obtain ⟨n, hn⟩ := h
  obtain ⟨n', hn'⟩ := hnext
  refine ⟨max n n', fun m hm ↦ ?_⟩
  show (read m).bind (next m) = some b
  rw [hn m (by omega), Option.bind_some]
  exact hn' m (by omega)

theorem map (f : α → β) (h : Settles read a) : Settles (fun fuel ↦ (read fuel).map f) (f a) := by
  obtain ⟨n, hn⟩ := h
  exact ⟨n, fun m hm ↦ by simp [hn m hm]⟩

end Settles

/-- The reader takes an expression of a level off the input and leaves the rest. -/
abbrev Reads (level : Nat) (input : List Token) (out : Expr × List Token) : Prop :=
  Settles (readLevel · level input) out

/-! ## Where an expression ends -/

/-- May a token continue an expression of a level? -/
def Token.continues (level : Nat) : Token → Bool
  | .word "DESC" => level = 0
  | .word "IS" | .word "BETWEEN" | .word "IN" => level ≤ 4
  | .word "OVER" => level ≤ 9
  | .word "WITHIN" => level ≤ 10
  | .symbol "." => true
  | t => t.operator?.any (fun op ↦ level ≤ op.level)

attribute [grind =] Token.continues

/-- An expression of a level ends before the input. -/
def Stops (level : Nat) (input : List Token) : Prop := ∀ t ∈ input.head?, t.continues level = false

theorem Stops.mono {n m : Nat} {input : List Token} (h : Stops n input) (hle : n ≤ m) :
    Stops m input := by
  intro t ht
  have hn := h t ht
  revert hn
  unfold Token.continues
  split
  · simp; omega
  · simp; omega
  · simp; omega
  · simp; omega
  · simp; omega
  · simp; omega
  · simp
  · cases Token.operator? t <;> simp; omega

theorem stops_cons {n : Nat} {t : Token} {rest : List Token} (h : t.continues n = false) :
    Stops n (t :: rest) := by
  simpa [Stops] using h

@[simp] theorem operator_asToken (op : BinaryOp) : op.asToken.operator? = some op := by
  cases op <;> rfl

theorem eq_asToken_of_operator {t : Token} {op : BinaryOp} (h : t.operator? = some op) :
    t = op.asToken := by
  revert h
  unfold Token.operator?
  split <;> rintro ⟨⟩ <;> rfl

theorem continues_asToken (op : BinaryOp) (n : Nat) :
    op.asToken.continues n = decide (n ≤ op.level) := by
  cases op <;> rfl

theorem nextOperator_asToken (op : BinaryOp) (rest : List Token) :
    nextOperator op.level (op.asToken :: rest) = some (op, rest) := by
  simp [nextOperator]

theorem nextOperator_of_stops {n : Nat} {input : List Token} (h : Stops n input) :
    nextOperator n input = none := by
  cases input with
  | nil => rfl
  | cons t rest =>
    cases hop : t.operator? with
    | none => simp [nextOperator, hop]
    | some op =>
      have ht := h t rfl
      rw [eq_asToken_of_operator hop, continues_asToken, decide_eq_false_iff_not] at ht
      have hne : op.level ≠ n := by omega
      simp [nextOperator, hop, hne]

/-! ## The reader at the end of an expression -/

theorem readDescending_of_stops {e : Expr} {rest : List Token} (h : Stops 0 rest) :
    readDescending e rest = (e, rest) := by
  unfold readDescending
  split
  · simpa [Token.continues] using h _ rfl
  · rfl

theorem readComparison_of_stops (fuel : Nat) {e : Expr} {rest : List Token} (h : Stops 4 rest) :
    readComparison (fuel + 1) e rest = some (e, rest) := by
  unfold readComparison
  rw [nextOperator_of_stops h]
  dsimp only
  split <;> first | rfl | simpa [Token.continues] using h _ rfl

theorem readOver_of_stops (fuel : Nat) {fn : Expr} {rest : List Token} (h : Stops 9 rest) :
    readOver (fuel + 1) fn rest = some (fn, rest) := by
  unfold readOver
  split
  · simpa [Token.continues] using h _ rfl
  · rfl

theorem readWithin_of_stops (fuel : Nat) {fn : Expr} {rest : List Token} (h : Stops 10 rest) :
    readWithin (fuel + 1) fn rest = some (fn, rest) := by
  unfold readWithin
  split
  · simpa [Token.continues] using h _ rfl
  · rfl

theorem readColumn_append (qualifier : Option String) (name : String) {rest : List Token}
    (h : Stops 9 rest) :
    readColumn (columnTokens qualifier name ++ rest) = some (.identifier qualifier name, rest) := by
  cases qualifier with
  | some qualifier => rfl
  | none =>
    unfold readColumn columnTokens
    split
    · rename_i heq
      simp only [List.singleton_append, List.cons.injEq] at heq
      obtain ⟨-, rfl⟩ := heq
      simpa [Token.continues] using h _ rfl
    · simp_all
    · simp_all

theorem readFrame_append (frame : Option Frame) (rest : List Token) :
    readFrame (frameTokens frame ++ .symbol ")" :: rest) = some (frame, .symbol ")" :: rest) := by
  match frame with
  | none => rfl
  | some ⟨start, none⟩ => cases start <;> rfl
  | some ⟨start, some stop⟩ => cases start <;> cases stop <;> rfl

@[simp] theorem skip_cons (t : Token) (rest : List Token) : skip t (t :: rest) = some rest := by
  simp [skip]

/-! ## The reader finds what is derived -/

/-- The levels of the operators that chain. -/
def chainLevels : List Nat := [1, 2, 5, 6, 7]

theorem BinaryOp.level_mem_chainLevels {op : BinaryOp} (h : op.associativity ≠ .neither) :
    op.level ∈ chainLevels := by
  cases op <;> first | decide | exact absurd rfl h

theorem BinaryOp.level_of_neither {op : BinaryOp} (h : op.associativity = .neither) :
    op.level = 4 := by
  cases op <;> first | rfl | cases h

/-- The reader finds the tree in front of any rest that does not continue it. Where operators chain,
it goes on from the tree with the operators that follow. -/
structure ReadBy (n : Nat) (ts : List Token) (e : Expr) : Prop where
  direct : ∀ rest, Stops n rest → Reads n (ts ++ rest) (e, rest)
  chained : n ∈ chainLevels → ∀ rest out, Stops (n + 1) rest →
    Settles (readChain · n e rest) out → Reads n (ts ++ rest) out

namespace ReadBy

variable {n : Nat} {ts : List Token} {e : Expr}

theorem of_direct (hn : n ∉ chainLevels)
    (h : ∀ rest, Stops n rest → Reads n (ts ++ rest) (e, rest)) : ReadBy n ts e :=
  ⟨h, fun hmem ↦ absurd hmem hn⟩

theorem of_chained (h : ∀ rest out, Stops (n + 1) rest →
    Settles (readChain · n e rest) out → Reads n (ts ++ rest) out) : ReadBy n ts e := by
  refine ⟨fun rest hstop ↦ h rest _ (hstop.mono (Nat.le_succ n)) ?_, fun _ ↦ h⟩
  refine Settles.of_succ ?_
  simpa [readChain, nextOperator_of_stops hstop] using Settles.const

theorem chain_from {input rest : List Token} {out : Expr × List Token} (hn : n ∈ chainLevels)
    (h : Reads (n + 1) input (e, rest)) (hchain : Settles (readChain · n e rest) out) :
    Reads n input out := by
  refine Settles.of_succ ?_
  have hbind : Settles (fun fuel ↦ (readLevel fuel (n + 1) input).bind
      (fun out ↦ readChain fuel n out.1 out.2)) out := h.bind hchain
  simp only [chainLevels, List.mem_cons, List.not_mem_nil, or_false] at hn
  rcases hn with rfl | rfl | rfl | rfl | rfl
  all_goals exact hbind

end ReadBy

theorem readList_cons (fuel n : Nat) {t : Token} (ht : t.starts n = true) (input : List Token) :
    readList (fuel + 1) n (t :: input) =
      (readLevel fuel n (t :: input)).bind (fun out ↦
        match out.2 with
        | .symbol "," :: rest => (readList fuel n rest).map (fun more ↦ (out.1 :: more.1, more.2))
        | rest => some ([out.1], rest)) := by
  rw [readList]
  intro rest heq
  simp_all [Token.starts]

/-- Expressions with commas between them, up to a token that ends the last of them. -/
theorem settles_readList {n : Nat} {items : List Phrase}
    (hread : ∀ p ∈ items, ReadBy n p.1 p.2)
    (hhead : ∀ p ∈ items, ∃ t more, p.1 = t :: more ∧ t.starts n = true)
    (close : Token) (rest : List Token) (hstop : close.continues n = false)
    (hcomma : close ≠ .symbol ",") (hnil : items = [] → close = .symbol ")") :
    Settles (readList · n (commaTokens (items.map Prod.fst) ++ close :: rest))
      (items.map Prod.snd, close :: rest) := by
  induction items with
  | nil =>
    obtain rfl := hnil rfl
    exact Settles.of_succ Settles.const
  | cons p items ih =>
    obtain ⟨t, more, hp, ht⟩ := hhead p List.mem_cons_self
    have hfirst := (hread p List.mem_cons_self).direct
    have hrest := fun hne ↦ ih (fun q hq ↦ hread q (List.mem_cons_of_mem p hq))
      (fun q hq ↦ hhead q (List.mem_cons_of_mem p hq)) (fun h ↦ absurd h hne)
    rw [hp] at hfirst
    refine Settles.of_succ ?_
    cases items with
    | nil =>
      have hitem := hfirst (close :: rest) (stops_cons hstop)
      simp only [List.map_cons, List.map_nil, commaTokens, List.intercalate_singleton, hp,
        List.cons_append, readList_cons _ _ ht]
      refine hitem.bind ?_
      simp only
      split
      · simp_all
      · exact Settles.const
    | cons q items =>
      have hitem := hfirst
        (.symbol "," :: (commaTokens ((q :: items).map Prod.fst) ++ close :: rest))
        (stops_cons rfl)
      simp only [List.map_cons, commaTokens, List.intercalate_cons_cons, hp,
        List.cons_append, readList_cons _ _ ht, List.append_assoc]
      exact hitem.bind ((hrest (List.cons_ne_nil q items)).map _)

theorem settles_readBy (word : String) {n : Nat} {items : List Phrase}
    (hread : ∀ p ∈ items, ReadBy n p.1 p.2)
    (hhead : ∀ p ∈ items, ∃ t more, p.1 = t :: more ∧ t.starts n = true)
    (close : Token) (rest : List Token) (hstop : close.continues n = false)
    (hcomma : close ≠ .symbol ",") (hword : close ≠ .word word) :
    Settles (readBy · word n (byTokens word (items.map Prod.fst) ++ close :: rest))
      (items.map Prod.snd, close :: rest) := by
  refine Settles.of_succ ?_
  cases items with
  | nil =>
    have hnone (fuel : Nat) : readBy (fuel + 1) word n (close :: rest) =
        some ([], close :: rest) := by
      unfold readBy
      split
      · simp_all
      · rfl
    simpa [byTokens, hnone] using Settles.const
  | cons p items =>
    have hlist := settles_readList hread hhead close rest hstop hcomma (by simp)
    have hby (fuel : Nat) (input : List Token) :
        readBy (fuel + 1) word n (.word word :: .word "BY" :: input) = readList fuel n input := by
      simp [readBy]
    simpa [byTokens, hby] using hlist

theorem settles_readBranches {branches : List (Phrase × Phrase)}
    (hcond : ∀ b ∈ branches, ReadBy 1 b.1.1 b.1.2) (hvalue : ∀ b ∈ branches, ReadBy 1 b.2.1 b.2.2)
    (close : Token) (rest : List Token) (hstop : close.continues 1 = false)
    (hwhen : close ≠ .word "WHEN") :
    Settles (readBranches · (branches.flatMap branchTokens ++ close :: rest))
      (branches.map (fun b ↦ (b.1.2, b.2.2)), close :: rest) := by
  induction branches with
  | nil =>
    refine Settles.of_succ ?_
    have hnone (fuel : Nat) : readBranches (fuel + 1) (close :: rest) =
        some ([], close :: rest) := by
      rw [readBranches]
      simp_all
    simpa [hnone] using Settles.const
  | cons b branches ih =>
    have hmore := ih (fun c hc ↦ hcond c (List.mem_cons_of_mem b hc))
      (fun c hc ↦ hvalue c (List.mem_cons_of_mem b hc))
    have hnext : Stops 1 (branches.flatMap branchTokens ++ close :: rest) := by
      cases branches with
      | nil => exact stops_cons hstop
      | cons c branches => exact stops_cons rfl
    have hc := (hcond b List.mem_cons_self).direct
      (.word "THEN" :: (b.2.1 ++ (branches.flatMap branchTokens ++ close :: rest)))
      (stops_cons rfl)
    have hv := (hvalue b List.mem_cons_self).direct _ hnext
    refine Settles.of_succ ?_
    simp only [List.flatMap_cons, branchTokens, List.cons_append, List.append_assoc]
    exact hc.bind (hv.bind (hmore.map _))

theorem settles_readElse {otherwise : Option Phrase}
    (h : ∀ p ∈ otherwise, ReadBy 1 p.1 p.2) (close : Token) (rest : List Token)
    (hstop : close.continues 1 = false) (helse : close ≠ .word "ELSE") :
    Settles (readElse · (elseTokens otherwise ++ close :: rest))
      (otherwise.map Prod.snd, close :: rest) := by
  refine Settles.of_succ ?_
  cases otherwise with
  | none =>
    have hnone (fuel : Nat) : readElse (fuel + 1) (close :: rest) = some (none, close :: rest) := by
      rw [readElse]
      simp_all
    simpa [elseTokens, hnone] using Settles.const
  | some p =>
    have hp := (h p rfl).direct (close :: rest) (stops_cons hstop)
    simpa [elseTokens, readElse] using hp.map (fun out ↦ (some out.1, out.2))

theorem readLevel_three (fuel : Nat) {t : Token} (ht : t.starts 4 = true) (input : List Token) :
    readLevel (fuel + 1) 3 (t :: input) = readLevel fuel 4 (t :: input) := by
  rw [readLevel]
  intro input heq
  simp_all [Token.starts]

theorem readLevel_eight (fuel : Nat) {t : Token} (ht : t.starts 9 = true) (input : List Token) :
    readLevel (fuel + 1) 8 (t :: input) = readLevel fuel 9 (t :: input) := by
  rw [readLevel]
  intro input heq
  simp_all [Token.starts]

theorem readAtom_aggregate (fuel : Nat) {t : Token} (ht : t.starts 10 = true)
    (input : List Token) :
    readAtom (fuel + 1) (t :: input) =
      (readLevel fuel 10 (t :: input)).bind (fun out ↦ readOver fuel out.1 out.2) := by
  unfold readAtom
  split <;> simp_all [Token.starts]

theorem ReadBy.of_tighter {n : Nat} {ts : List Token} {e : Expr} (h : Derives (n + 1) ts e)
    (hread : ReadBy (n + 1) ts e) : ReadBy n ts e := by
  obtain ⟨t, more, rfl, ht⟩ := h.head
  by_cases hn : n ∈ chainLevels
  · exact .of_chained (fun rest out hstop hchain ↦ chain_from hn (hread.direct rest hstop) hchain)
  refine .of_direct hn (fun rest hstop ↦ ?_)
  have hfirst := hread.direct rest (hstop.mono (Nat.le_succ n))
  have hle := h.level_le
  refine Settles.of_succ ?_
  simp only [chainLevels, List.mem_cons, List.not_mem_nil, or_false, not_or] at hn
  obtain rfl | rfl | rfl | rfl | rfl | rfl : n = 0 ∨ n = 3 ∨ n = 4 ∨ n = 8 ∨ n = 9 ∨ n = 10 := by
    omega
  · simpa [readLevel, readDescending_of_stops hstop] using
      hfirst.map (fun out ↦ readDescending out.1 out.2)
  · simpa only [List.cons_append, readLevel_three _ ht] using hfirst
  · refine hfirst.bind (Settles.of_succ ?_)
    simpa only [readComparison_of_stops _ hstop] using Settles.const
  · simpa only [List.cons_append, readLevel_eight _ ht] using hfirst
  · refine Settles.of_succ ?_
    show Settles (fun fuel ↦ readAtom (fuel + 1) (t :: more ++ rest)) (e, rest)
    simp only [List.cons_append, readAtom_aggregate _ ht]
    refine hfirst.bind (Settles.of_succ ?_)
    simpa only [readOver_of_stops _ hstop] using Settles.const
  · refine hfirst.bind (Settles.of_succ ?_)
    simpa only [readWithin_of_stops _ hstop] using Settles.const

theorem readComparison_column (fuel : Nat) (e : Expr) (qualifier : Option String) (name : String)
    (rest : List Token) :
    readComparison (fuel + 1) e (.word "IN" :: (columnTokens qualifier name ++ rest)) =
      (readColumn (columnTokens qualifier name ++ rest)).map
        (fun out ↦ (.elemOf e out.1, out.2)) := by
  cases qualifier <;> rfl

theorem readAtom_column (fuel : Nat) (qualifier : Option String) (name : String)
    (rest : List Token) :
    readAtom (fuel + 1) (columnTokens qualifier name ++ rest) =
      readColumn (columnTokens qualifier name ++ rest) := by
  cases qualifier <;> rfl

theorem readCall_plain (fuel : Nat) (name : String) {input : List Token}
    (h : ∀ rest, input ≠ .word "DISTINCT" :: rest) :
    readCall (fuel + 1) (.word name :: .symbol "(" :: input) =
      (readList fuel 1 input).bind (fun args ↦ (skip (.symbol ")") args.2).map (fun rest ↦
        (.function name args.1 false, rest))) := by
  rw [readCall]
  simpa using h

theorem commaTokens_ne_distinct {items : List Phrase}
    (hhead : ∀ p ∈ items, ∃ t more, p.1 = t :: more ∧ t.starts 1 = true) (rest more : List Token) :
    commaTokens (items.map Prod.fst) ++ .symbol ")" :: rest ≠ .word "DISTINCT" :: more := by
  cases items with
  | nil => simp [commaTokens]
  | cons p items =>
    obtain ⟨t, tail, hp, ht⟩ := hhead p List.mem_cons_self
    have hne : t ≠ .word "DISTINCT" := by
      rintro rfl
      simp [Token.starts, keywords] at ht
    cases items <;> simp [commaTokens, hp, hne]

theorem settles_readOver (fn : Expr) {partition order : List Phrase}
    (hpartition : ∀ p ∈ partition, ReadBy 1 p.1 p.2)
    (hphead : ∀ p ∈ partition, ∃ t more, p.1 = t :: more ∧ t.starts 1 = true)
    (horder : ∀ p ∈ order, ReadBy 0 p.1 p.2)
    (hohead : ∀ p ∈ order, ∃ t more, p.1 = t :: more ∧ t.starts 0 = true)
    (frame : Option Frame) (rest : List Token) :
    Settles (readOver · fn (.word "OVER" :: parensTokens (byTokens "PARTITION"
        (partition.map Prod.fst) ++ byTokens "ORDER" (order.map Prod.fst) ++ frameTokens frame) ++
          rest))
      (.window fn (partition.map Prod.snd) (order.map Prod.snd) frame, rest) := by
  obtain ⟨close, more, hframe, hclose⟩ : ∃ close more,
      frameTokens frame ++ .symbol ")" :: rest = close :: more ∧
        (close = .word "ROWS" ∨ close = .symbol ")") := by
    match frame with
    | none => exact ⟨_, _, rfl, .inr rfl⟩
    | some ⟨start, none⟩ => exact ⟨_, _, rfl, .inl rfl⟩
    | some ⟨start, some stop⟩ => exact ⟨_, _, rfl, .inl rfl⟩
  have horders : Settles (readBy · "ORDER" 0 (byTokens "ORDER" (order.map Prod.fst) ++
      close :: more)) (order.map Prod.snd, close :: more) := by
    rcases hclose with rfl | rfl <;>
      exact settles_readBy _ horder hohead _ _ rfl (by decide) (by decide)
  have hpartitions : Settles (readBy · "PARTITION" 1 (byTokens "PARTITION"
      (partition.map Prod.fst) ++ (byTokens "ORDER" (order.map Prod.fst) ++ close :: more)))
      (partition.map Prod.snd, byTokens "ORDER" (order.map Prod.fst) ++ close :: more) := by
    cases order with
    | nil =>
      rcases hclose with rfl | rfl <;>
        exact settles_readBy _ hpartition hphead _ _ rfl (by decide) (by decide)
    | cons p order =>
      exact settles_readBy _ hpartition hphead (.word "ORDER") _ rfl (by decide) (by decide)
  refine Settles.of_succ ?_
  simp only [parensTokens, List.cons_append, List.append_assoc, List.nil_append, hframe]
  refine hpartitions.bind (horders.bind ?_)
  simp only [← hframe, readFrame_append]
  exact Settles.const

/-- The reader finds every tree that is derived. -/
theorem Derives.readBy {n : Nat} {ts : List Token} {e : Expr} (h : Derives n ts e) :
    ReadBy n ts e := by
  induction h with
  | descending _ ih =>
    refine .of_direct (by decide) (fun rest _ ↦ Settles.of_succ ?_)
    have hfirst := ih.direct (.word "DESC" :: rest) (stops_cons rfl)
    rw [List.append_assoc]
    exact hfirst.map (fun out ↦ readDescending out.1 out.2)
  | tighter h ih => exact .of_tighter h ih
  | @chain op ts us l r hop _ _ ihl ihr =>
    have hn := op.level_mem_chainLevels hop
    -- The left operand is itself the chain read so far, so its hypothesis is used with this
    -- operator still in front of the reader.
    refine .of_chained (fun rest out hstop hchain ↦ ?_)
    have hnext : Stops (op.level + 1) (op.asToken :: (us ++ rest)) :=
      stops_cons (by rw [continues_asToken, decide_eq_false_iff_not]; omega)
    rw [List.append_assoc, List.cons_append]
    refine ihl.chained hn _ out hnext (Settles.of_succ ?_)
    simp only [readChain, nextOperator_asToken]
    exact (ihr.direct rest hstop).bind hchain
  | not _ ih =>
    refine .of_direct (by decide) (fun rest hstop ↦ Settles.of_succ ?_)
    exact (ih.direct rest hstop).map _
  | @compare op ts us l r hop _ _ ihl ihr =>
    refine .of_direct (by decide) (fun rest hstop ↦ Settles.of_succ ?_)
    have hlevel := op.level_of_neither hop
    have hnext : Stops 5 (op.asToken :: (us ++ rest)) :=
      stops_cons (by rw [continues_asToken, decide_eq_false_iff_not]; omega)
    have hop := hlevel ▸ nextOperator_asToken op (us ++ rest)
    rw [List.append_assoc, List.cons_append]
    refine (ihl.direct _ hnext).bind (Settles.of_succ ?_)
    simp only [readComparison, hop]
    exact (ihr.direct rest (hstop.mono (by decide))).map _
  | isNull _ ih =>
    refine .of_direct (by decide) (fun rest _ ↦ Settles.of_succ ?_)
    have hfirst := ih.direct (.word "IS" :: .word "NULL" :: rest) (stops_cons rfl)
    simp only [List.append_assoc, List.cons_append, List.nil_append]
    exact hfirst.bind (Settles.of_succ Settles.const)
  | @between ts us vs e low high _ _ _ ihe ihl ihh =>
    refine .of_direct (by decide) (fun rest hstop ↦ Settles.of_succ ?_)
    have hfirst := ihe.direct (.word "BETWEEN" :: (us ++ .word "AND" :: (vs ++ rest)))
      (stops_cons rfl)
    have hlow := ihl.direct (.word "AND" :: (vs ++ rest)) (stops_cons rfl)
    have hhigh := ihh.direct rest (hstop.mono (by decide))
    simp only [List.append_assoc, List.cons_append]
    exact hfirst.bind (Settles.of_succ (hlow.bind (hhigh.map _)))
  | @elemOfList ts e items _ hitems ihe ihi =>
    refine .of_direct (by decide) (fun rest _ ↦ Settles.of_succ ?_)
    have hfirst := ihe.direct
      (.word "IN" :: .symbol "(" :: (commaTokens (items.map Prod.fst) ++ .symbol ")" :: rest))
      (stops_cons rfl)
    have hlist := settles_readList ihi (fun p hp ↦ (hitems p hp).head) (.symbol ")") rest
      rfl (by decide) (fun _ ↦ rfl)
    simp only [parensTokens, List.append_assoc, List.cons_append, List.nil_append]
    exact hfirst.bind (Settles.of_succ (hlist.bind Settles.const))
  | @elemOfColumn ts e qualifier name _ ih =>
    refine .of_direct (by decide) (fun rest hstop ↦ Settles.of_succ ?_)
    have hfirst := ih.direct (.word "IN" :: (columnTokens qualifier name ++ rest))
      (stops_cons rfl)
    have hcolumn := readColumn_append qualifier name (hstop.mono (by decide : 4 ≤ 9))
    rw [List.append_assoc, List.cons_append]
    refine hfirst.bind (Settles.of_succ ?_)
    simp only [readComparison_column, hcolumn]
    exact Settles.const
  | neg _ ih =>
    refine .of_direct (by decide) (fun rest hstop ↦ Settles.of_succ ?_)
    exact (ih.direct rest hstop).map _
  | verbatim text => exact .of_direct (by decide) (fun rest _ ↦ .of_succ (.of_succ .const))
  | column qualifier name =>
    refine .of_direct (by decide) (fun rest hstop ↦ Settles.of_succ (Settles.of_succ ?_))
    have hcolumn := readColumn_append qualifier name hstop
    show Settles (fun fuel ↦ readAtom (fuel + 1) (columnTokens qualifier name ++ rest)) _
    simpa only [readAtom_column, hcolumn] using Settles.const
  | star => exact .of_direct (by decide) (fun rest _ ↦ .of_succ (.of_succ .const))
  | parens _ ih =>
    refine .of_direct (by decide) (fun rest _ ↦ Settles.of_succ (Settles.of_succ ?_))
    have hinner := ih.direct (.symbol ")" :: rest) (stops_cons rfl)
    simp only [parensTokens, List.append_assoc, List.cons_append, List.nil_append]
    exact hinner.bind Settles.const
  | @caseWhen branches otherwise _ _ _ ihc ihv iho =>
    refine .of_direct (by decide) (fun rest _ ↦ Settles.of_succ (Settles.of_succ ?_))
    have helse := settles_readElse iho (.word "END") rest rfl (by decide)
    have hbranches : Settles
        (readBranches · (branches.flatMap branchTokens ++
          (elseTokens otherwise ++ .word "END" :: rest)))
        (branches.map (fun b ↦ (b.1.2, b.2.2)), elseTokens otherwise ++ .word "END" :: rest) := by
      cases otherwise with
      | none => exact settles_readBranches ihc ihv _ _ rfl (by decide)
      | some p => exact settles_readBranches ihc ihv (.word "ELSE") _ rfl (by decide)
    simp only [List.append_assoc, List.cons_append, List.nil_append]
    exact hbranches.bind (helse.bind Settles.const)
  | @cast ts e type _ ih =>
    refine .of_direct (by decide) (fun rest _ ↦ Settles.of_succ (Settles.of_succ ?_))
    have hinner := ih.direct (.word "AS" :: .typeName type :: .symbol ")" :: rest)
      (stops_cons rfl)
    simp only [parensTokens, List.append_assoc, List.cons_append, List.nil_append]
    exact hinner.bind Settles.const
  | @window ts fn partition order frame hfn hp ho ihf ihp iho =>
    refine .of_direct (by decide) (fun rest _ ↦ Settles.of_succ (Settles.of_succ ?_))
    -- A window begins like a call; the reader tells them apart only behind the function.
    obtain ⟨t, more, rfl, ht⟩ := hfn.head
    have hover := settles_readOver fn ihp (fun p hmem ↦ (hp p hmem).head) iho
      (fun p hmem ↦ (ho p hmem).head) frame rest
    show Settles (fun fuel ↦ readAtom (fuel + 1) _) _
    simp only [List.cons_append, readAtom_aggregate _ ht]
    simp only [List.append_assoc, List.cons_append] at hover ⊢
    exact (ihf.direct _ (stops_cons rfl)).bind hover
  | @withinGroup ts fn order _ horder ihf iho =>
    refine .of_direct (by decide) (fun rest _ ↦ Settles.of_succ ?_)
    have hlist := settles_readList iho (fun p hp ↦ (horder p hp).head) (.symbol ")") rest
      rfl (by decide) (fun _ ↦ rfl)
    simp only [parensTokens, List.append_assoc, List.cons_append, List.nil_append]
    exact (ihf.direct _ (stops_cons rfl)).bind (Settles.of_succ (hlist.bind Settles.const))
  | @call name args distinct hname hargs ih =>
    refine .of_direct (by decide) (fun rest _ ↦ Settles.of_succ (Settles.of_succ ?_))
    have hlist := settles_readList ih (fun p hp ↦ (hargs p hp).head) (.symbol ")") rest
      rfl (by decide) (fun _ ↦ rfl)
    show Settles (fun fuel ↦ readCall (fuel + 1) _) _
    simp only [parensTokens, List.append_assoc, List.cons_append, List.nil_append]
    -- Without `DISTINCT`, the first argument must not be taken for that word.
    cases distinct with
    | true => exact hlist.bind Settles.const
    | false =>
      have hplain := commaTokens_ne_distinct (fun p hp ↦ (hargs p hp).head) rest
      simp only [distinctTokens, Bool.false_eq_true, if_false, List.nil_append,
        readCall_plain _ _ hplain]
      exact hlist.bind Settles.const

/-- The grammar derives at most one tree for a sequence of tokens. -/
theorem Derives.unique {n : Nat} {ts : List Token} {e e' : Expr} (h : Derives n ts e)
    (h' : Derives n ts e') : e = e' := by
  have hend : Stops n [] := by simp [Stops]
  have heq := (h.readBy.direct [] hend).unique (h'.readBy.direct [] hend)
  exact congrArg Prod.fst heq

end SqlVerbs.Sql
