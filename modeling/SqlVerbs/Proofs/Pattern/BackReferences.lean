import Mathlib
import SqlVerbs.Local.Functions

/-!
# References in replacements

A replacement of the host language is read from the left: a backslash before a digit refers to a
group, two backslashes are one, and all else stands for itself. Every text has exactly one reading.
The template of a replacement says the same in the grammar of the matcher, so what it is filled in
with for a match is the text of the reading.
-/

namespace SqlVerbs.Pattern

open Local (Value callLocal mapText patternOf scalarText)

/-! ## The reading of a replacement -/

/-- A piece of a replacement. -/
inductive Piece where
  | group (number : Nat)
  | literal (c : Char)
deriving DecidableEq, Repr

/-- The number that a digit stands for. -/
def digitValue (c : Char) : Nat := c.toNat - '0'.toNat

/-- Does a backslash before the character mean something else than itself? -/
def isEscaped (c : Char) : Bool := c.isDigit || c = '\\'

/-- The text is read as the pieces. -/
inductive Reads : List Char → List Piece → Prop where
  | nil : Reads [] []
  | group {c : Char} {rest : List Char} {pieces : List Piece} (hc : c.isDigit = true)
    (h : Reads rest pieces) : Reads ('\\' :: c :: rest) (.group (digitValue c) :: pieces)
  | backslash {rest : List Char} {pieces : List Piece} (h : Reads rest pieces) :
    Reads ('\\' :: '\\' :: rest) (.literal '\\' :: pieces)
  /-- A backslash before something else, or at the end. -/
  | lone {rest : List Char} {pieces : List Piece} (hrest : ∀ c ∈ rest.head?, isEscaped c = false)
    (h : Reads rest pieces) : Reads ('\\' :: rest) (.literal '\\' :: pieces)
  | other {c : Char} {rest : List Char} {pieces : List Piece} (hc : c ≠ '\\')
    (h : Reads rest pieces) : Reads (c :: rest) (.literal c :: pieces)

section Reads

variable {c : Char} {text rest : List Char} {pieces other : List Piece}

theorem isEscaped_digit (hc : c.isDigit = true) : isEscaped c = true := by
  rw [isEscaped, hc, Bool.true_or]

theorem not_lone_of_isEscaped (hc : isEscaped c = true) :
    ¬ ∀ next ∈ (c :: rest).head?, isEscaped next = false := by
  intro h
  rw [h c rfl] at hc
  cases hc

theorem exists_reads (text : List Char) : ∃ pieces, Reads text pieces := by
  fun_induction toTemplate text with
  | case1 => exact ⟨_, .nil⟩
  | case2 => exact ⟨_, .lone nofun .nil⟩
  | case3 c after hdigit ih =>
    obtain ⟨pieces, hpieces⟩ := ih
    exact ⟨_, .group hdigit hpieces⟩
  | case4 after hdigit ih =>
    obtain ⟨pieces, hpieces⟩ := ih
    exact ⟨_, .backslash hpieces⟩
  | case5 c after hdigit hne ih =>
    obtain ⟨pieces, hpieces⟩ := ih
    refine ⟨_, .lone ?_ hpieces⟩
    simp [isEscaped, hdigit, hne]
  | case6 after hne ih =>
    obtain ⟨pieces, hpieces⟩ := ih
    exact ⟨_, .other hne hpieces⟩
  | case7 c after hne _ ih =>
    obtain ⟨pieces, hpieces⟩ := ih
    exact ⟨_, .other hne hpieces⟩

theorem Reads.unique (h : Reads text pieces) (hother : Reads text other) : other = pieces := by
  induction h generalizing other with
  | nil =>
    cases hother
    rfl
  | group hc _ ih =>
    cases hother with
    | group _ h' => rw [ih h']
    | backslash => cases hc
    | lone hrest => exact absurd hrest (not_lone_of_isEscaped (isEscaped_digit hc))
    | other hne => exact absurd rfl hne
  | backslash _ ih =>
    cases hother with
    | group hc => cases hc
    | backslash h' => rw [ih h']
    | lone hrest => exact absurd hrest (not_lone_of_isEscaped rfl)
    | other hne => exact absurd rfl hne
  | lone hrest _ ih =>
    cases hother with
    | group hc => exact absurd hrest (not_lone_of_isEscaped (isEscaped_digit hc))
    | backslash => exact absurd hrest (not_lone_of_isEscaped rfl)
    | lone _ h' => rw [ih h']
    | other hne => exact absurd rfl hne
  | other hc _ ih =>
    cases hother with
    | other _ h' => rw [ih h']
    | _ => exact absurd rfl hc

end Reads

/-! ## The grammar of templates -/

/-- The text of a group, which is empty if the group took no part or is missing. -/
def captured (groups : List (Option String)) (number : Nat) : List Char :=
  ((groups.getD number none).getD "").toList

/-- The text of a piece for the groups of a match. -/
def Piece.text (groups : List (Option String)) : Piece → List Char
  | .group number => captured groups number
  | .literal c => [c]

/-- The rules by which templates are filled in with the groups of a match: two dollar signs are one,
a dollar sign and a digit in braces are a group, and what is no dollar sign stands for itself. -/
structure FillsIn (groups : List (Option String)) (fill : List Char → List Char) : Prop where
  nil : fill [] = []
  dollar (rest : List Char) : fill ('$' :: '$' :: rest) = '$' :: fill rest
  group {c : Char} (hc : c.isDigit = true) (rest : List Char) :
    fill ('$' :: '\x7b' :: c :: '\x7d' :: rest) = captured groups (digitValue c) ++ fill rest
  other {c : Char} (hc : c ≠ '$') (rest : List Char) : fill (c :: rest) = c :: fill rest

/-- A backslash before something else is kept, and so is what follows. -/
theorem toTemplate_lone {rest : List Char} (hrest : ∀ c ∈ rest.head?, isEscaped c = false) :
    toTemplate ('\\' :: rest) = '\\' :: toTemplate rest := by
  cases rest with
  | nil => rfl
  | cons c after =>
    have hc := hrest c rfl
    rw [isEscaped, Bool.or_eq_false_iff, decide_eq_false_iff_not] at hc
    rw [toTemplate.eq_def]
    simp [hc]

theorem toTemplate_dollar (rest : List Char) :
    toTemplate ('$' :: rest) = '$' :: '$' :: toTemplate rest := by
  rw [toTemplate.eq_def]
  simp

theorem toTemplate_other {c : Char} (hc : c ≠ '\\') (hdollar : c ≠ '$') (rest : List Char) :
    toTemplate (c :: rest) = c :: toTemplate rest := by
  rw [toTemplate.eq_def]
  simp [hc, hdollar]

/-- One step for every piece. No step leaves a dollar sign that is not followed by its second
character, so steps never merge. -/
theorem fill_toTemplate {groups : List (Option String)} {fill : List Char → List Char}
    (hfill : FillsIn groups fill) {text : List Char} {pieces : List Piece}
    (h : Reads text pieces) : fill (toTemplate text) = pieces.flatMap (Piece.text groups) := by
  induction h with
  | nil => exact hfill.nil
  | group hc _ ih =>
    rw [List.flatMap_cons, ← ih, Piece.text, ← hfill.group hc]
    simp [toTemplate, hc]
  | backslash _ ih =>
    rw [List.flatMap_cons, ← ih]
    exact hfill.other (by decide) _
  | lone hrest _ ih =>
    rw [List.flatMap_cons, ← ih, toTemplate_lone hrest]
    exact hfill.other (by decide) _
  | @other c rest _ hc _ ih =>
    rw [List.flatMap_cons, ← ih]
    by_cases hdollar : c = '$'
    · rw [hdollar, toTemplate_dollar]
      exact hfill.dollar _
    · rw [toTemplate_other hc hdollar]
      exact hfill.other hdollar _

/-! ## The matcher's templates -/

section Expand

variable {lookup : String → String}

theorem expand_dollar (fuel : Nat) (rest : List Char) :
    expand lookup (fuel + 1) ('$' :: '$' :: rest) = '$' :: expand lookup fuel rest := by
  rw [expand]

theorem expand_other {c : Char} (hc : c ≠ '$') (fuel : Nat) (rest : List Char) :
    expand lookup (fuel + 1) (c :: rest) = c :: expand lookup fuel rest := by
  rw [expand]
  · exact fun _ h ↦ absurd h hc
  · exact fun _ h ↦ absurd h hc
  · exact hc

/-- One step writes some text and goes on with a shorter template, whatever the fuel is. -/
theorem expand_step (lookup : String → String) {template : List Char} (h : template ≠ []) :
    ∃ before rest, rest.length < template.length ∧
      ∀ fuel, expand lookup (fuel + 1) template = before ++ expand lookup fuel rest := by
  -- The cases are those of `expand` with any fuel at all.
  obtain ⟨enough, henough⟩ : ∃ enough : Nat, enough ≠ 0 := ⟨1, Nat.one_ne_zero⟩
  fun_cases expand lookup enough template with
  | case1 => exact absurd rfl henough
  | case2 => exact absurd rfl h
  | case3 _ rest =>
    refine ⟨['$'], rest, ?_, fun fuel ↦ expand_dollar fuel rest⟩
    simp only [List.length_cons]
    omega
  | case4 _ rest brace after hrest =>
    have hshorter : (brace :: after).length ≤ rest.length :=
      hrest ▸ (List.dropWhile_sublist _).length_le
    refine ⟨_, after, ?_, fun fuel ↦ by rw [expand, hrest]⟩
    simp only [List.length_cons] at hshorter ⊢
    omega
  | case5 _ rest hrest =>
    exact ⟨['$'], '\x7b' :: rest, by simp, fun fuel ↦ by rw [expand, hrest]; rfl⟩
  | case6 _ rest hdollar hbrace name hname =>
    refine ⟨['$'], rest, by simp, fun fuel ↦ ?_⟩
    rw [expand.eq_5 _ _ _ hdollar hbrace, if_pos hname]
    rfl
  | case7 _ rest hdollar hbrace name hname =>
    refine ⟨(lookup (String.ofList name)).toList, rest.dropWhile isBareNameChar, ?_, fun fuel ↦ ?_⟩
    · exact Nat.lt_succ_of_le (List.dropWhile_sublist isBareNameChar).length_le
    · rw [expand.eq_5 _ _ _ hdollar hbrace, if_neg hname]
  | case8 _ c rest _ _ hc => exact ⟨[c], rest, by simp, fun fuel ↦ expand_other hc fuel rest⟩

/-- Fuel beyond the length of the template does not matter. -/
theorem expand_congr {fuel n : Nat} {template : List Char} (h : template.length < fuel)
    (h' : template.length < n) : expand lookup fuel template = expand lookup n template := by
  induction fuel generalizing n template with
  | zero => exact absurd h (Nat.not_lt_zero _)
  | succ fuel ih =>
    obtain ⟨n, rfl⟩ := Nat.exists_eq_add_one_of_ne_zero (Nat.ne_zero_of_lt h')
    by_cases hnil : template = []
    · rw [hnil]
      rfl
    · obtain ⟨before, rest, hshorter, hstep⟩ := expand_step lookup hnil
      have hrest : expand lookup fuel rest = expand lookup n rest := ih (by omega) (by omega)
      rw [hstep, hstep, hrest]

theorem expand_of_lt {fuel : Nat} {template : List Char} (h : template.length < fuel) :
    expand lookup fuel template = expand lookup (template.length + 1) template :=
  expand_congr h (Nat.lt_succ_self _)

theorem expand_reference {c : Char} (hc : c.isDigit = true) (fuel : Nat) (rest : List Char) :
    expand lookup (fuel + 1) ('$' :: '\x7b' :: c :: '\x7d' :: rest) =
      (lookup (String.ofList [c])).toList ++ expand lookup fuel rest := by
  have hne : c ≠ '\x7d' := by
    rintro rfl
    cases hc
  rw [expand]
  simp [hne]

end Expand

theorem groupNamed_digit {c : Char} (hc : c.isDigit = true) (names : List (String × Nat))
    (groups : List (Option String)) :
    (groupNamed names groups (String.ofList [c])).toList = captured groups (digitValue c) := by
  have hne : c ≠ '+' := by
    rintro rfl
    cases hc
  simp [groupNamed, captured, digitValue, hc, hne]

namespace Matcher

/-- The matcher follows the rules with the groups of the match. -/
theorem fillsIn_expandMatch (m : Matcher) (found : Match) :
    FillsIn found.groups fun template ↦ m.expandMatch template found where
  nil := rfl
  dollar rest := by
    rw [expandMatch, expand_dollar, expand_of_lt (by simp only [List.length_cons]; omega)]
    rfl
  group hc rest := by
    rw [expandMatch, expand_reference hc, groupNamed_digit hc,
      expand_of_lt (by simp only [List.length_cons]; omega)]
    rfl
  other hc rest := by
    rw [expandMatch, expand_other hc]
    rfl

/-! ## Replacing matches -/

/-- The text with the given matches replaced by what is rendered for them, from a position on. -/
def rendered (render : Match → List Char) (text : Array Char) : List Match → Nat → List Char
  | [], position => (text.extract position text.size).toList
  | found :: later, position =>
    (text.extract position found.start).toList ++ render found ++
      rendered render text later found.stop

theorem splice_eq_rendered (m : Matcher) (template : List Char) (text : Array Char)
    (hits : List Match) (position : Nat) :
    m.splice template text hits position =
      rendered (m.expandMatch template) text hits position := by
  induction hits generalizing position with
  | nil => rfl
  | cons found later ih => rw [splice, rendered, ih]

/-- The text with its first match or all matches replaced by what is rendered for them. -/
def replaceBy (m : Matcher) (all : Bool) (render : Match → List Char) (text : String) : String :=
  let chars := text.toList.toArray
  let found := if all then m.findAll chars (chars.size + 2) 0 none else (m.find chars 0).toList
  String.ofList (rendered render chars found 0)

theorem replaceFirst_eq (m : Matcher) (replacement text : String) :
    m.replaceFirst replacement text =
      m.replaceBy false (m.expandMatch (toTemplate replacement.toList)) text :=
  congrArg String.ofList (m.splice_eq_rendered ..)

theorem replaceAll_eq (m : Matcher) (replacement text : String) :
    m.replaceAll replacement text =
      m.replaceBy true (m.expandMatch (toTemplate replacement.toList)) text :=
  congrArg String.ofList (m.splice_eq_rendered ..)

end Matcher

/-- A call of a replacing function replaces by the filled-in template. -/
theorem callLocal_replacing (now : Calendar.DateTime) (all : Bool)
    {pattern written x : Value} (named : Bindings Value) {replacement : String}
    (hwritten : scalarText written "replacement" = .ok replacement) :
    callLocal now (if all then "gsub" else "sub") [pattern, written, x] named = (do
      let m ← patternOf pattern named
      mapText (fun text ↦
        some (m.replaceBy all (m.expandMatch (toTemplate replacement.toList)) text)) x) := by
  cases all with
  | false =>
    change (patternOf pattern named >>= fun m ↦
      scalarText written "replacement" >>= fun replacement ↦
        mapText (fun text ↦ some (m.replaceFirst replacement text)) x) = _
    simp only [hwritten, Matcher.replaceFirst_eq]
    rfl
  | true =>
    change (patternOf pattern named >>= fun m ↦
      scalarText written "replacement" >>= fun replacement ↦
        mapText (fun text ↦ some (m.replaceAll replacement text)) x) = _
    simp only [hwritten, Matcher.replaceAll_eq]
    rfl

/-- The template of a replacement keeps its meaning. The replacement has exactly one reading: its
references to groups, single backslashes for double ones, and its other characters.

* What follows the rules of templates fills in the template with the text of the reading, whatever
  the groups are, and the matcher follows these rules with the groups of a match.
* So `sub` and `gsub` with the replacement replace the first match, or all of them, by the text that
  the reading has for the groups of the match. -/
theorem replacement_meaning_kept (replacement : String) :
    ∃ pieces, Reads replacement.toList pieces ∧
      (∀ other, Reads replacement.toList other → other = pieces) ∧
      (∀ groups fill, FillsIn groups fill →
        fill (toTemplate replacement.toList) = pieces.flatMap (Piece.text groups)) ∧
      (∀ (m : Matcher) (found : Match),
        FillsIn found.groups fun template ↦ m.expandMatch template found) ∧
      ∀ (now : Calendar.DateTime) (all : Bool) (pattern written x : Value)
        (named : Bindings Value),
        scalarText written "replacement" = .ok replacement →
          callLocal now (if all then "gsub" else "sub") [pattern, written, x] named = (do
            let m ← patternOf pattern named
            mapText (fun text ↦ some (m.replaceBy all
              (fun found ↦ pieces.flatMap (Piece.text found.groups)) text)) x) := by
  obtain ⟨pieces, hpieces⟩ := exists_reads replacement.toList
  refine ⟨pieces, hpieces, fun other ↦ hpieces.unique, fun groups fill hfill ↦
    fill_toTemplate hfill hpieces, Matcher.fillsIn_expandMatch, ?_⟩
  intro now all pattern written x named hwritten
  have hrender (m : Matcher) : m.expandMatch (toTemplate replacement.toList) =
      fun found ↦ pieces.flatMap (Piece.text found.groups) :=
    funext fun found ↦ fill_toTemplate (m.fillsIn_expandMatch found) hpieces
  rw [callLocal_replacing now all named hwritten]
  simp only [hrender]

/-- Two groups are swapped around a dollar sign. The backslash before the last digit is written
twice, so the digit is no reference, and one more backslash ends the replacement. -/
theorem replacement_meaning_kept_swapped :
    let string (s : String) : Value := .ofLiteral (.string (some s))
    let replacement := "\\2$\\1\\\\3\\"
    let m : Matcher := ⟨#[], 0, ⟨.empty, 2, []⟩⟩
    let found : Match := ⟨0, 2, [some "wo", some "w", some "o"]⟩
    Reads replacement.toList [.group 2, .literal '$', .group 1, .literal '\\', .literal '3',
        .literal '\\'] ∧
      m.expandMatch (toTemplate replacement.toList) found = "o$w\\3\\".toList ∧
      callLocal ⟨⟨2024, 1, 1⟩, 0, 0, 0⟩ "sub"
          [string "(w)(o)", string replacement, string "world"] [] =
        .ok (string "o$w\\3\\rld") := by
  intro string replacement m found
  have hchars : replacement.toList = ['\\', '2', '$', '\\', '1', '\\', '\\', '3', '\\'] := by
    decide
  have hreads : Reads replacement.toList [.group 2, .literal '$', .group 1, .literal '\\',
      .literal '3', .literal '\\'] := by
    rw [hchars]
    exact .group rfl (.other (by decide) (.group rfl
      (.backslash (.other (by decide) (.lone (by simp) .nil)))))
  obtain ⟨pieces, -, hunique, hfill, hmatcher, hcalls⟩ := replacement_meaning_kept replacement
  obtain rfl := hunique _ hreads
  exact ⟨hreads, (hfill found.groups _ (hmatcher m found)).trans (by decide),
    (hcalls ⟨⟨2024, 1, 1⟩, 0, 0, 0⟩ false _ _ _ [] rfl).trans (by cbv)⟩

end SqlVerbs.Pattern
