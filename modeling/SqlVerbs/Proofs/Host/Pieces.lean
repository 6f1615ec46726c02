import SqlVerbs.Host.Deparse

/-!
# The pieces of deparsed text

Operators and names are deparsed to a row of pieces: names, operators, parentheses and brackets with
rows of their own. No two pieces run together, and what a piece is shows in its first character. So
the row can be read off the text.
-/

namespace SqlVerbs.Host

/-- The functions that are written in front of their argument. -/
def signs : List String := ["-", "+", "!"]

/-- The functions that are written as brackets, behind their first argument. -/
def brackets : List String := ["[", "[["]

/-- A piece of text. -/
inductive Piece where
  | symbol (name : String)
  | spaced (op : String)
  | tight (op : String)
  | sign (op : String)
  | group (inner : List Piece)
  | subset (bracket : String) (inner : List Piece)

/-- What the first character of a piece tells. The end of the text, and what closes a group, are the
end of a row. -/
inductive Lead where
  | symbol
  | spaced
  | tight
  | sign
  | group
  | subset
  | close
deriving DecidableEq

/-- The longest beginning of one kind is the same in equal lists. -/
theorem append_cancel_of_all {α : Type} {test : α → Bool} {a b x y : List α}
    (ha : ∀ c ∈ a, test c = true) (hb : ∀ c ∈ b, test c = true)
    (hx : ∀ c ∈ x.head?, test c = false) (hy : ∀ c ∈ y.head?, test c = false)
    (h : a ++ x = b ++ y) : a = b ∧ x = y := by
  have hlongest {a x : List α} (ha : ∀ c ∈ a, test c = true)
      (hx : ∀ c ∈ x.head?, test c = false) : (a ++ x).takeWhile test = a := by
    rw [List.takeWhile_append_of_pos ha]
    cases x with
    | nil => simp
    | cons c rest => simp [hx c rfl]
  have heq : a = b := by rw [← hlongest ha hx, h, hlongest hb hy]
  exact ⟨heq, List.append_cancel_left (heq ▸ h)⟩

namespace Lead

def ofChar (c : Char) : Lead :=
  if c.isAlphanum || c = '.' || c = '_' then .symbol
  else if c = ' ' then .spaced
  else if c = ':' || c = '$' then .tight
  else if c = '-' || c = '+' || c = '!' then .sign
  else if c = '(' then .group
  else if c = '[' then .subset
  else .close

def ofText : List Char → Lead
  | [] => .close
  | c :: _ => ofChar c

/-- Names and tight operators would run into others of their kind. -/
def Apart (a b : Lead) : Prop := a = b → a ≠ .symbol ∧ a ≠ .tight

/-- Does every character of a word tell the same? -/
def Spells (kind : Lead) (word : String) : Prop :=
  word.toList ≠ [] ∧ word.toList.all (ofChar · = kind) = true

theorem spells_of_isSyntactic {name : String} (h : isSyntactic name = true) :
    Spells .symbol name := by
  rw [isSyntactic] at h
  unfold Spells
  cases hname : name.toList with
  | nil => simp [hname] at h
  | cons first rest =>
    simp only [hname, Bool.and_eq_true, Bool.or_eq_true, List.all_eq_true, decide_eq_true_eq] at h
    refine ⟨List.cons_ne_nil _ _, List.all_eq_true.2 (List.forall_mem_cons.2 ⟨?_, fun c hc ↦ ?_⟩)⟩
    · rcases h.1 with hfirst | rfl
      · simp [ofChar, Char.isAlphanum, hfirst]
      · decide
    · simp [ofChar, h.2 c hc]

theorem spells_of_mem_tightOperators {op : String} (h : op ∈ tightOperators) : Spells .tight op :=
  (by unfold Spells; decide : ∀ op ∈ tightOperators, Spells .tight op) op h

theorem spells_of_mem_signs {op : String} (h : op ∈ signs) : Spells .sign op :=
  (by unfold Spells; decide : ∀ op ∈ signs, Spells .sign op) op h

theorem spells_of_mem_brackets {op : String} (h : op ∈ brackets) : Spells .subset op :=
  (by unfold Spells; decide : ∀ op ∈ brackets, Spells .subset op) op h

variable {kind : Lead} {word word' : String} {x y : List Char}

theorem Spells.ofText (h : Spells kind word) (x : List Char) :
    Lead.ofText (word.toList ++ x) = kind := by
  obtain ⟨hne, hall⟩ := h
  cases hword : word.toList with
  | nil => exact absurd hword hne
  | cons c rest => exact of_decide_eq_true (List.all_eq_true.1 hall c (by simp [hword]))

/-- Words of one kind end where something of another kind begins. -/
theorem Spells.cancel (h : Spells kind word) (h' : Spells kind word') (hx : Lead.ofText x ≠ kind)
    (hy : Lead.ofText y ≠ kind) (heq : word.toList ++ x = word'.toList ++ y) :
    word = word' ∧ x = y := by
  have hhead {x : List Char} (hx : Lead.ofText x ≠ kind) :
      ∀ c ∈ x.head?, decide (ofChar c = kind) = false := by
    cases x with
    | nil => simp
    | cons c rest => simpa [Lead.ofText] using hx
  obtain ⟨hword, hrest⟩ := append_cancel_of_all (List.all_eq_true.1 h.2)
    (List.all_eq_true.1 h'.2) (hhead hx) (hhead hy) heq
  exact ⟨String.toList_inj.1 hword, hrest⟩

end Lead

namespace Piece

def lead : Piece → Lead
  | .symbol _ => .symbol
  | .spaced _ => .spaced
  | .tight _ => .tight
  | .sign _ => .sign
  | .group _ => .group
  | .subset .. => .subset

attribute [grind =] lead

/-- What begins a row of pieces. -/
def leadOf : List Piece → Lead
  | [] => .close
  | p :: _ => p.lead

/-- The row inside of parentheses or brackets. -/
def inside : Piece → List Piece
  | .group inner | .subset _ inner => inner
  | _ => []

mutual

/-- The text of a piece. -/
def text : Piece → List Char
  | .symbol name => name.toList
  | .spaced op => ' ' :: (op.toList ++ [' '])
  | .tight op | .sign op => op.toList
  | .group inner => '(' :: (textOf inner ++ [')'])
  | .subset bracket inner =>
    bracket.toList ++ (textOf inner ++ bracket.toList.map fun _ ↦ ']')

/-- The text of a row of pieces. -/
def textOf : List Piece → List Char
  | [] => []
  | p :: rest => text p ++ textOf rest

end

/-- Is the piece one that operators and syntactic names are written with? -/
def IsWritten : Piece → Prop
  | .symbol name => isSyntactic name = true
  | .spaced op => op ∈ spacedOperators
  | .tight op => op ∈ tightOperators
  | .sign op => op ∈ signs
  | .group _ => True
  | .subset bracket inner => bracket ∈ brackets ∧ leadOf inner ≠ .subset

/-- A row in which nothing runs into its neighbour. -/
inductive AreLegible : List Piece → Prop where
  | nil : AreLegible []
  | cons {p : Piece} {rest : List Piece} (written : p.IsWritten) (inner : AreLegible p.inside)
    (apart : p.lead.Apart (leadOf rest)) (legible : AreLegible rest) : AreLegible (p :: rest)

variable {p p' : Piece} {ps ps' qs : List Piece} {x y : List Char}

/-! ## Rows side by side -/

theorem leadOf_append (h : ps ≠ []) : leadOf (ps ++ qs) = leadOf ps := by
  cases ps with
  | nil => exact absurd rfl h
  | cons p rest => rfl

theorem AreLegible.append (h : AreLegible ps) (h' : AreLegible qs)
    (hjoin : ∀ p ∈ ps.getLast?, p.lead.Apart (leadOf qs)) : AreLegible (ps ++ qs) := by
  induction h with
  | nil => exact h'
  | @cons p rest hwritten hinside hapart hrest _ ih =>
    cases rest with
    | nil => exact .cons hwritten hinside (hjoin p rfl) h'
    | cons q rest =>
      refine .cons hwritten hinside ?_ (ih (by simpa using hjoin))
      exact (leadOf_append (List.cons_ne_nil q rest)).symm ▸ hapart

@[simp] theorem textOf_append (ps qs : List Piece) :
    textOf (ps ++ qs) = textOf ps ++ textOf qs := by
  induction ps with
  | nil => rfl
  | cons p rest ih => rw [List.cons_append, textOf, ih, textOf, List.append_assoc]

/-! ## Reading a row off its text -/

/-- What begins a row shows in the first character of its text. -/
theorem ofText_text (h : p.IsWritten) : Lead.ofText (p.text ++ x) = p.lead := by
  cases p with
  | symbol name => exact (Lead.spells_of_isSyntactic h).ofText x
  | spaced op => rfl
  | tight op => exact (Lead.spells_of_mem_tightOperators h).ofText x
  | sign op => exact (Lead.spells_of_mem_signs h).ofText x
  | group inner => rfl
  | subset bracket inner =>
    rw [text, List.append_assoc]
    exact (Lead.spells_of_mem_brackets h.1).ofText _

theorem ofText_textOf (h : AreLegible ps) (hx : Lead.ofText x = .close) :
    Lead.ofText (textOf ps ++ x) = leadOf ps := by
  cases h with
  | nil => exact hx
  | cons hwritten _ _ _ => rw [textOf, List.append_assoc, ofText_text hwritten, leadOf]

theorem cancel_spaced {op op' : String} (h : op ∈ spacedOperators) (h' : op' ∈ spacedOperators)
    (heq : op.toList ++ ' ' :: x = op'.toList ++ ' ' :: y) : op = op' ∧ x = y := by
  have hblank : ∀ op ∈ spacedOperators, op.toList.all (· ≠ ' ') = true := by decide
  obtain ⟨hop, hrest⟩ := append_cancel_of_all (List.all_eq_true.1 (hblank op h))
    (List.all_eq_true.1 (hblank op' h')) (by simp) (by simp) heq
  exact ⟨String.toList_inj.1 hop, List.tail_eq_of_cons_eq hrest⟩

theorem cancel_sign {op op' : String} (h : op ∈ signs) (h' : op' ∈ signs)
    (heq : op.toList ++ x = op'.toList ++ y) : op = op' ∧ x = y := by
  have hlength : ∀ op ∈ signs, op.toList.length = 1 := by decide
  obtain ⟨hop, hrest⟩ := List.append_inj heq ((hlength op h).trans (hlength op' h').symm)
  exact ⟨String.toList_inj.1 hop, hrest⟩

/-- Can the row be found in front of anything that closes it? -/
def Ends (ps : List Piece) : Prop :=
  ∀ ⦃ps' : List Piece⦄ ⦃x y : List Char⦄, AreLegible ps' → Lead.ofText x = .close →
    Lead.ofText y = .close → textOf ps ++ x = textOf ps' ++ y → ps = ps' ∧ x = y

theorem cancel_subset {bracket bracket' : String} {inner inner' : List Piece}
    (h : IsWritten (.subset bracket inner)) (h' : IsWritten (.subset bracket' inner'))
    (hinner : AreLegible inner) (hinner' : AreLegible inner') (hends : Ends inner)
    (heq : text (.subset bracket inner) ++ x = text (.subset bracket' inner') ++ y) :
    Piece.subset bracket inner = .subset bracket' inner' ∧ x = y := by
  have hclose : ∀ op ∈ brackets, ∀ x : List Char,
      Lead.ofText ((op.toList.map fun _ ↦ ']') ++ x) = .close := by
    intro op hop x
    simp only [brackets, List.mem_cons, List.not_mem_nil, or_false] at hop
    obtain rfl | rfl := hop <;> rfl
  have hopen : Lead.ofText (textOf inner ++ ((bracket.toList.map fun _ ↦ ']') ++ x)) ≠ .subset :=
    ofText_textOf hinner (hclose _ h.1 x) ▸ h.2
  have hopen' : Lead.ofText (textOf inner' ++ ((bracket'.toList.map fun _ ↦ ']') ++ y)) ≠
      .subset := ofText_textOf hinner' (hclose _ h'.1 y) ▸ h'.2
  simp only [text, List.append_assoc] at heq
  obtain ⟨rfl, hrest⟩ := (Lead.spells_of_mem_brackets h.1).cancel
    (Lead.spells_of_mem_brackets h'.1) hopen hopen' heq
  obtain ⟨rfl, hafter⟩ := hends hinner' (hclose _ h.1 x) (hclose _ h.1 y) hrest
  exact ⟨rfl, List.append_cancel_left hafter⟩

theorem text_cancel (h : p.IsWritten) (h' : p'.IsWritten) (hinner : AreLegible p.inside)
    (hinner' : AreLegible p'.inside) (hends : Ends p.inside) (hlead : p.lead = p'.lead)
    (hx : p.lead.Apart (Lead.ofText x)) (hy : p'.lead.Apart (Lead.ofText y))
    (heq : p.text ++ x = p'.text ++ y) : p = p' ∧ x = y := by
  match p, p', hlead with
  | .symbol name, .symbol name', _ =>
    obtain ⟨rfl, hrest⟩ := (Lead.spells_of_isSyntactic h).cancel (Lead.spells_of_isSyntactic h')
      (fun hsame ↦ (hx hsame.symm).1 rfl) (fun hsame ↦ (hy hsame.symm).1 rfl) heq
    exact ⟨rfl, hrest⟩
  | .spaced op, .spaced op', _ =>
    simp only [text, List.cons_append, List.append_assoc, List.cons.injEq, true_and,
      List.nil_append] at heq
    obtain ⟨rfl, hrest⟩ := cancel_spaced h h' heq
    exact ⟨rfl, hrest⟩
  | .tight op, .tight op', _ =>
    obtain ⟨rfl, hrest⟩ := (Lead.spells_of_mem_tightOperators h).cancel
      (Lead.spells_of_mem_tightOperators h') (fun hsame ↦ (hx hsame.symm).2 rfl)
      (fun hsame ↦ (hy hsame.symm).2 rfl) heq
    exact ⟨rfl, hrest⟩
  | .sign op, .sign op', _ =>
    obtain ⟨rfl, hrest⟩ := cancel_sign h h' heq
    exact ⟨rfl, hrest⟩
  | .group inner, .group inner', _ =>
    simp only [text, List.cons_append, List.append_assoc, List.cons.injEq, true_and,
      List.nil_append] at heq
    obtain ⟨rfl, hrest⟩ := hends hinner' rfl rfl heq
    exact ⟨rfl, List.tail_eq_of_cons_eq hrest⟩
  | .subset bracket inner, .subset bracket' inner', _ =>
    exact cancel_subset h h' hinner hinner' hends heq

/-- The end of a row, and the row up to there, can be found in its text. -/
theorem AreLegible.ends (h : AreLegible ps) : Ends ps := by
  induction h with
  | nil =>
    intro ps' x y h' hx hy heq
    have hlead := ofText_textOf h' hy
    rw [← heq] at hlead
    cases h' with
    | nil => exact ⟨rfl, heq⟩
    | @cons p => cases p <;> cases hx.symm.trans hlead
  | @cons p rest hwritten hinner hapart hrest hends ih =>
    intro ps' x y h' hx hy heq
    have hlead : p.lead = leadOf ps' := by
      rw [← ofText_textOf h' hy, ← heq, ofText_textOf (.cons hwritten hinner hapart hrest) hx,
        leadOf]
    cases h' with
    | nil => cases p <;> cases hlead
    | @cons p' rest' hwritten' hinner' hapart' hrest' =>
      rw [textOf, textOf, List.append_assoc, List.append_assoc] at heq
      rw [← ofText_textOf hrest hx] at hapart
      rw [← ofText_textOf hrest' hy] at hapart'
      obtain ⟨rfl, hafter⟩ :=
        text_cancel hwritten hwritten' hinner hinner' hends hlead hapart hapart' heq
      obtain ⟨rfl, hxy⟩ := ih hrest' hx hy hafter
      exact ⟨rfl, hxy⟩

/-- A row can be read off its text. -/
theorem textOf_inj (h : AreLegible ps) (h' : AreLegible ps') :
    textOf ps = textOf ps' ↔ ps = ps' := by
  refine ⟨fun heq ↦ (h.ends h' (x := []) (y := []) rfl rfl ?_).1, fun heq ↦ heq ▸ rfl⟩
  rw [heq]

end Piece

end SqlVerbs.Host
