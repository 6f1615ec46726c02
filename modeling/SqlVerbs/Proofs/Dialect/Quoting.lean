import Mathlib.Logic.Basic
import SqlVerbs.Dialect.Registry

/-!
# Reading quoted text

Quoted text ends at a closing quote that is not doubled. A doubled closing quote stands for one, and
where backslashes are escapes, a doubled backslash stands for one. Reading undoes quoting, whatever
the quotes and the content are, and accepts nothing else.
-/

namespace SqlVerbs.Dialect

/-! ## Up to the closing quote -/

/-- Does the character have to be doubled before a closing quote and with an escape? -/
def isPaired (closing : Char) (escape : Option Char) (c : Char) : Bool :=
  c = closing || escape = some c

/-- Reads up to the closing quote: the content, and what follows. Characters that come in pairs
stand for one; an escape before another character is nothing that quoting writes. -/
def readQuoted? (closing : Char) (escape : Option Char) :
    List Char → Option (List Char × List Char)
  | [] => none
  | [c] => if c = closing then some ([], []) else none
  | c :: next :: rest =>
    if isPaired closing escape c then
      if next = c then (readQuoted? closing escape rest).map fun (content, after) ↦
        (c :: content, after)
      else if c = closing then some ([], next :: rest)
      else none
    else (readQuoted? closing escape (next :: rest)).map fun (content, after) ↦
      (c :: content, after)

section Quoted

variable {closing : Char} {escape : Option Char} {text content rest : List Char}

theorem isPaired_closing : isPaired closing escape closing = true := by simp [isPaired]

theorem doubling_append_ne_nil (test : Char → Bool) (content rest : List Char) (closing : Char) :
    ∃ next tail, doubling test content ++ closing :: rest = next :: tail :=
  List.exists_cons_of_ne_nil (by simp)

theorem readQuoted?_doubling (hrest : rest.head? ≠ some closing) :
    readQuoted? closing escape
      (doubling (isPaired closing escape) content ++ closing :: rest) = some (content, rest) := by
  induction content with
  | nil =>
    cases rest with
    | nil => simp [doubling, readQuoted?]
    | cons next rest =>
      have hne : next ≠ closing := fun heq ↦ hrest (congrArg some heq)
      simp [doubling, readQuoted?, isPaired_closing, hne]
  | cons c content ih =>
    cases hpaired : isPaired closing escape c with
    | true => simp [doubling, readQuoted?, hpaired, ih]
    | false =>
      obtain ⟨next, tail, htail⟩ :=
        doubling_append_ne_nil (isPaired closing escape) content rest closing
      rw [htail] at ih
      simp [doubling, readQuoted?, hpaired, htail, ih]

theorem eq_doubling_of_readQuoted? (h : readQuoted? closing escape text = some (content, rest)) :
    text = doubling (isPaired closing escape) content ++ closing :: rest ∧
      rest.head? ≠ some closing := by
  fun_induction readQuoted? closing escape text generalizing content with
  | case1 => cases h
  | case2 =>
    cases h
    exact ⟨rfl, nofun⟩
  | case3 => cases h
  | case4 next rest' hpaired ih =>
    obtain ⟨⟨inner, after⟩, hread, ⟨⟩⟩ := Option.map_eq_some_iff.1 h
    obtain ⟨rfl, hhead⟩ := ih hread
    exact ⟨by simp [doubling, hpaired], hhead⟩
  | case5 next rest' hpaired hne =>
    cases h
    exact ⟨rfl, fun hhead ↦ hne (Option.some.inj hhead)⟩
  | case6 => cases h
  | case7 c next rest' hpaired ih =>
    obtain ⟨⟨inner, after⟩, hread, ⟨⟩⟩ := Option.map_eq_some_iff.1 h
    obtain ⟨htext, hhead⟩ := ih hread
    exact ⟨by simp [doubling, hpaired, htext], hhead⟩

theorem readQuoted?_eq_some :
    readQuoted? closing escape text = some (content, rest) ↔
      text = doubling (isPaired closing escape) content ++ closing :: rest ∧
        rest.head? ≠ some closing := by
  constructor
  · exact eq_doubling_of_readQuoted?
  · rintro ⟨rfl, hrest⟩
    exact readQuoted?_doubling hrest

end Quoted

/-- Reads one quoted text with its quotes: the content, and what follows. -/
def readToken? (opening closing : Char) (escape : Option Char) :
    List Char → Option (String × List Char)
  | [] => none
  | c :: text =>
    if c = opening then (readQuoted? closing escape text).map fun (content, rest) ↦
      (String.ofList content, rest)
    else none

theorem readToken?_eq_some {opening closing : Char} {escape : Option Char} {text : List Char}
    {content : String} {rest : List Char} :
    readToken? opening closing escape text = some (content, rest) ↔
      text = opening :: (doubling (isPaired closing escape) content.toList ++ closing :: rest) ∧
        rest.head? ≠ some closing := by
  constructor
  · fun_cases readToken? opening closing escape text with
    | case1 => nofun
    | case2 text =>
      intro h
      obtain ⟨⟨chars, after⟩, hread, ⟨⟩⟩ := Option.map_eq_some_iff.1 h
      obtain ⟨rfl, hrest⟩ := readQuoted?_eq_some.1 hread
      exact ⟨by simp, hrest⟩
    | case3 => nofun
  · rintro ⟨rfl, hrest⟩
    simp [readToken?, readQuoted?_doubling hrest]

/-! ## Strings and names of a dialect -/

section Dialects

variable (d : Dialect)

/-- What escapes inside of a string. -/
def stringEscape : Option Char := if d.escapesBackslash then some '\\' else none

/-- Reads a string of the dialect. -/
def readString? : List Char → Option (String × List Char) :=
  readToken? d.stringQuote d.stringQuote d.stringEscape

/-- Reads an identifier of the dialect. -/
def readIdentifier? : List Char → Option (String × List Char) :=
  readToken? d.identifierOpen d.identifierClose none

variable {d} {text rest : List Char} {content : String}

theorem doublesInString_eq : d.doublesInString = isPaired d.stringQuote d.stringEscape := by
  funext c
  cases hescape : d.escapesBackslash
  · simp [doublesInString, isPaired, stringEscape, hescape]
  · simp [doublesInString, isPaired, stringEscape, hescape, eq_comm]

theorem isPaired_none (closing : Char) : isPaired closing none = fun c ↦ decide (c = closing) := by
  funext c
  simp [isPaired]

theorem readString?_eq_some :
    d.readString? text = some (content, rest) ↔
      text = (d.quoteString content).toList ++ rest ∧ rest.head? ≠ some d.stringQuote := by
  simp [readString?, readToken?_eq_some, quoteString, stringChars, doublesInString_eq]

theorem readIdentifier?_eq_some :
    d.readIdentifier? text = some (content, rest) ↔
      text = (d.quoteIdentifier content).toList ++ rest ∧
        rest.head? ≠ some d.identifierClose := by
  simp [readIdentifier?, readToken?_eq_some, quoteIdentifier, identifierChars, isPaired_none]

theorem length_lt_of_readIdentifier? (h : d.readIdentifier? text = some (content, rest)) :
    rest.length < text.length := by
  obtain ⟨rfl, -⟩ := readIdentifier?_eq_some.1 h
  simp only [List.length_append, quoteIdentifier, identifierChars, String.toList_ofList,
    List.length_cons]
  omega

end Dialects

/-! ## Qualified names -/

/-- Reads identifiers with dots between them. -/
def readQualified? (d : Dialect) (text : List Char) : Option (List String) :=
  match hread : d.readIdentifier? text with
  | some (part, []) => some [part]
  | some (part, '.' :: rest) =>
    have : rest.length + 1 < text.length := length_lt_of_readIdentifier? hread
    (readQualified? d rest).map (part :: ·)
  | _ => none
termination_by text.length

section Qualified

variable {d : Dialect} {text : List Char} {parts : List String}

theorem toList_quoteQualified_cons (part next : String) (parts : List String) :
    (d.quoteQualified (part :: next :: parts)).toList =
      (d.quoteIdentifier part).toList ++ '.' :: (d.quoteQualified (next :: parts)).toList := by
  simp [quoteQualified, String.intercalate_cons_cons]

theorem readQualified?_quoteQualified (hdot : d.identifierClose ≠ '.') (part : String) :
    d.readQualified? (d.quoteQualified (part :: parts)).toList = some (part :: parts) := by
  induction parts generalizing part with
  | nil =>
    have hread : d.readIdentifier? (d.quoteQualified [part]).toList = some (part, []) :=
      readIdentifier?_eq_some.2 ⟨by simp [quoteQualified], nofun⟩
    rw [readQualified?]
    split <;> simp_all
  | cons next parts ih =>
    have hread : d.readIdentifier? (d.quoteQualified (part :: next :: parts)).toList =
        some (part, '.' :: (d.quoteQualified (next :: parts)).toList) :=
      readIdentifier?_eq_some.2 ⟨toList_quoteQualified_cons .., by simpa using hdot.symm⟩
    rw [readQualified?]
    split <;> simp_all

theorem eq_quoteQualified_of_readQualified? (h : d.readQualified? text = some parts) :
    parts ≠ [] ∧ text = (d.quoteQualified parts).toList := by
  fun_induction readQualified? d text generalizing parts with
  | case1 text part hread =>
    cases h
    obtain ⟨rfl, -⟩ := readIdentifier?_eq_some.1 hread
    exact ⟨nofun, by simp [quoteQualified]⟩
  | case2 text part rest hread _ ih =>
    obtain ⟨tail, htail, rfl⟩ := Option.map_eq_some_iff.1 h
    obtain ⟨hne, rfl⟩ := ih htail
    obtain ⟨rfl, -⟩ := readIdentifier?_eq_some.1 hread
    obtain ⟨next, tail, rfl⟩ := List.exists_cons_of_ne_nil hne
    exact ⟨nofun, (toList_quoteQualified_cons ..).symm⟩
  | case3 => cases h

theorem readQualified?_eq_some (hdot : d.identifierClose ≠ '.') :
    d.readQualified? text = some parts ↔
      parts ≠ [] ∧ text = (d.quoteQualified parts).toList := by
  constructor
  · exact eq_quoteQualified_of_readQualified?
  · rintro ⟨hne, rfl⟩
    obtain ⟨part, parts, rfl⟩ := List.exists_cons_of_ne_nil hne
    exact readQualified?_quoteQualified hdot part

theorem identifierClose_ne_dot : ∀ d ∈ builtin, d.identifierClose ≠ '.' := by
  intro d hd
  simp only [builtin, List.mem_cons, List.not_mem_nil, or_false] at hd
  rcases hd with rfl | rfl | rfl | rfl | rfl | rfl <;> decide

end Qualified

/-- Under any quotes, reading a text gives a string or a name, and a rest that does not go on with
the closing quote, exactly where the text is what quoting writes, with the rest behind. Qualified
names are read part by part unless a dot is the closing quote, which it is in no built-in
dialect. -/
theorem quoting_undone (d : Dialect) (opening closing quote : Char) :
    let quoted := (d.withIdentifierQuote opening closing).withStringQuote quote
    (∀ text s rest, quoted.readString? text = some (s, rest) ↔
      text = (quoted.quoteString s).toList ++ rest ∧ rest.head? ≠ some quote) ∧
    (∀ text s rest, quoted.readIdentifier? text = some (s, rest) ↔
      text = (quoted.quoteIdentifier s).toList ++ rest ∧ rest.head? ≠ some closing) ∧
    (closing ≠ '.' → ∀ text parts, quoted.readQualified? text = some parts ↔
      parts ≠ [] ∧ text = (quoted.quoteQualified parts).toList) ∧
    ∀ d ∈ builtin, d.identifierClose ≠ '.' :=
  ⟨fun _ _ _ ↦ readString?_eq_some, fun _ _ _ ↦ readIdentifier?_eq_some,
    fun hdot _ _ ↦ readQualified?_eq_some hdot, identifierClose_ne_dot⟩

/-- The escape itself as the string quote, and a dot inside of a name. -/
theorem quoting_undone_backslash :
    let quoted := (mysql.withIdentifierQuote '[' ']').withStringQuote '\\'
    quoted.readString? (quoted.quoteString "a\\\\" ++ "'").toList = some ("a\\\\", ['\'']) ∧
      quoted.readIdentifier? (quoted.quoteIdentifier "]a]" ++ "[").toList = some ("]a]", ['[']) ∧
      quoted.readQualified? (quoted.quoteQualified ["a]", "b.c"]).toList = some ["a]", "b.c"] := by
  obtain ⟨hstring, hname, hqualified, -⟩ := quoting_undone mysql '[' ']' '\\'
  exact ⟨(hstring _ _ _).2 ⟨by simp, by decide⟩, (hname _ _ _).2 ⟨by simp, by decide⟩,
    (hqualified (by decide) _ _).2 ⟨by simp, rfl⟩⟩

end SqlVerbs.Dialect
