import CorpusQuery.Query.Canonical
import CorpusQuery.Query.Parser
import Mathlib.Data.List.DropRight

namespace CorpusQuery

/-!
# Terms that the reader builds

The text of a term is changed while it is read: braces are stripped, letters
become codes, blanks around numbers go.  Writing a term puts letters and braces
back.  What the reader has built satisfies `Term.WellFormed`, which says by
domain what the text is afterwards, and such a term is built again from its
written text (`termOfText_shownText`).

The letter tables need two facts for this.  The first letter of a code is read
as that code, and no digit of a code is itself a letter of the table.
-/

/-! ## Braces -/

namespace Parser

theorem stripBraces_braced (inner : List Char) :
    stripBraces (String.ofList ('{' :: (inner ++ ['}']))) = some (String.ofList inner) := by
  simp [stripBraces]

theorem eq_braced_of_stripBraces {text inner : String} (stripped : stripBraces text = some inner) :
    text.toList = '{' :: (inner.toList ++ ['}']) := by
  unfold stripBraces at stripped
  split at stripped
  next rest shown =>
    split at stripped
    next core reversed =>
      cases stripped
      have forward := congrArg List.reverse reversed
      rw [List.reverse_reverse, List.reverse_cons] at forward
      rw [shown, forward, String.toList_ofList]
    next => cases stripped
  next => cases stripped

end Parser

/-! ## Blanks around a text -/

namespace Text

theorem trimChars_eq (chars : List Char) :
    trimChars chars = (chars.dropWhile isBlank).rdropWhile isBlank :=
  rfl

/-- What is left of a text without blanks at the start starts with no blank
either, however much is cut off at the end. -/
theorem dropWhile_trimChars (chars : List Char) :
    (trimChars chars).dropWhile isBlank = trimChars chars := by
  cases shown : trimChars chars with
  | nil => rfl
  | cons c rest =>
      have cut := List.rdropWhile_prefix isBlank (chars.dropWhile isBlank)
      rw [← trimChars_eq, shown] at cut
      rcases cut with ⟨blanks, whole⟩
      have stopped := List.head?_dropWhile_not isBlank chars
      rw [← whole, List.cons_append, List.head?_cons] at stopped
      have visible : ¬ isBlank c = true := by simpa using stopped
      rw [List.dropWhile_cons_of_neg visible]

theorem trimChars_trimChars (chars : List Char) :
    trimChars (trimChars chars) = trimChars chars := by
  rw [trimChars_eq (trimChars chars), dropWhile_trimChars, trimChars_eq,
    List.rdropWhile_idempotent]

theorem trim_trim (text : String) : trim (trim text) = trim text := by
  simp only [trim, String.toList_ofList, trimChars_trimChars]

theorem trimChars_braced (inner : List Char) :
    trimChars ('{' :: (inner ++ ['}'])) = '{' :: (inner ++ ['}']) := by
  have opening : ¬ isBlank '{' = true := by decide
  have closing : ¬ isBlank '}' = true := by decide
  rw [trimChars_eq, List.dropWhile_cons_of_neg opening, ← List.cons_append,
    List.rdropWhile_concat_neg _ _ _ closing]

end Text

theorem splitComparison?_trim (text : String) :
    splitComparison? (Text.trim text) = splitComparison? text := by
  simp only [splitComparison?, Comparison.splitChars?, Text.trim, String.toList_ofList,
    Text.trimChars_trimChars]

/-- A text in braces is no comparison. -/
theorem stripBraces_of_splitComparison? {text : String} {split : Relation × Int}
    (compares : splitComparison? text = some split) : Parser.stripBraces text = none := by
  cases stripped : Parser.stripBraces text with
  | none => rfl
  | some inner =>
      have unsigned : ¬ Comparison.isSignChar '{' = true := by decide
      rw [splitComparison?, Parser.eq_braced_of_stripBraces stripped, Comparison.splitChars?,
        Text.trimChars_braced, List.takeWhile_cons_of_neg unsigned,
        List.dropWhile_cons_of_neg unsigned, Text.trimChars_braced] at compares
      simp [Text.integer64?, Text.integer?, Text.natural?, Text.isDigit] at compares

/-! ## Letters and codes -/

namespace LetterCode

/-- A letter of the table as the digit of its code. -/
def decodeChar (table : List LetterCode) (c : Char) : Char :=
  ((table.find? fun entry => entry.accepts c).map digit).getD c

/-- The digit of a code as its first letter. -/
def encodeChar (table : List LetterCode) (c : Char) : Char :=
  ((table.find? fun entry => entry.digit = c).map canonical).getD c

/-- No entry of the table accepts the character. -/
def Refuses (table : List LetterCode) (c : Char) : Prop :=
  forall entry, entry ∈ table -> entry.accepts c = false

/-- Letters and digits of a table do not get into each other's way: the first
letter of a code is read as that code, and the digit of a code is no letter. -/
structure Consistent (table : List LetterCode) : Prop where
  canonical : forall entry, entry ∈ table -> decodeChar table entry.canonical = entry.digit
  digit : forall entry, entry ∈ table -> forall other, other ∈ table ->
    other.accepts entry.digit = false

theorem decodeChar_of_refuses {table : List LetterCode} {c : Char} (refuses : Refuses table c) :
    decodeChar table c = c := by
  have none : (table.find? fun entry => entry.accepts c) = none := by
    apply List.find?_eq_none.mpr
    intro entry member
    rw [refuses entry member]
    decide
  rw [decodeChar, none]
  rfl

/-- Decoding leaves no letter. -/
theorem refuses_decodeChar {table : List LetterCode} (consistent : Consistent table) (c : Char) :
    Refuses table (decodeChar table c) := by
  intro entry among
  unfold decodeChar
  cases found : table.find? fun entry => entry.accepts c with
  | none => simpa using List.find?_eq_none.mp found entry among
  | some other => exact consistent.digit other (List.mem_of_find?_eq_some found) entry among

/-- On characters that are no letters, encoding is undone by decoding. -/
theorem decodeChar_encodeChar {table : List LetterCode} (consistent : Consistent table) {c : Char}
    (refuses : Refuses table c) : decodeChar table (encodeChar table c) = c := by
  unfold encodeChar
  cases found : table.find? fun entry => entry.digit = c with
  | none => exact decodeChar_of_refuses refuses
  | some entry =>
      have same := List.find?_some found
      rw [decide_eq_true_eq] at same
      exact (consistent.canonical entry (List.mem_of_find?_eq_some found)).trans same

end LetterCode

namespace Attribute

theorem table_consistent {attr : Attribute} {table : List LetterCode}
    (tabled : attr.domain.table? = some table) : LetterCode.Consistent table := by
  cases attr <;> cases tabled <;> exact ⟨by decide, by decide⟩

theorem decodePattern_of_table {attr : Attribute} {table : List LetterCode}
    (tabled : attr.domain.table? = some table) (text : String) :
    attr.decodePattern text = String.ofList (text.toList.map (LetterCode.decodeChar table)) := by
  rw [decodePattern, tabled]
  rfl

theorem encodeText_of_table {attr : Attribute} {table : List LetterCode}
    (tabled : attr.domain.table? = some table) (text : String) :
    attr.encodeText text = String.ofList (text.toList.map (LetterCode.encodeChar table)) := by
  rw [encodeText, tabled]
  rfl

theorem encodeText_of_no_table {attr : Attribute} (untabled : attr.domain.table? = none)
    (text : String) : attr.encodeText text = text := by
  rw [encodeText, untabled]

theorem decodePattern_encodeText {attr : Attribute} {table : List LetterCode}
    (tabled : attr.domain.table? = some table) {text : String}
    (free : forall c, c ∈ text.toList -> LetterCode.Refuses table c) :
    attr.decodePattern (attr.encodeText text) = text := by
  have back : text.toList.map (LetterCode.decodeChar table ∘ LetterCode.encodeChar table) =
      text.toList.map id :=
    List.map_congr_left fun c member =>
      LetterCode.decodeChar_encodeChar (table_consistent tabled) (free c member)
  rw [decodePattern_of_table tabled, encodeText_of_table tabled, String.toList_ofList, List.map_map,
    back, List.map_id, String.ofList_toList]

theorem refuses_decodePattern {attr : Attribute} {table : List LetterCode}
    (tabled : attr.domain.table? = some table) {text : String} {c : Char}
    (member : c ∈ (attr.decodePattern text).toList) : LetterCode.Refuses table c := by
  rw [decodePattern_of_table tabled, String.toList_ofList] at member
  rcases List.mem_map.mp member with ⟨letter, _, rfl⟩
  exact LetterCode.refuses_decodeChar (table_consistent tabled) letter

theorem decodePattern_isEmpty (attr : Attribute) (text : String) :
    (attr.decodePattern text).isEmpty = text.isEmpty := by
  unfold decodePattern
  cases attr.domain.table? with
  | none => rfl
  | some table =>
      rw [Bool.eq_iff_iff]
      simp only [String.isEmpty_iff, ← String.toList_eq_nil_iff, String.toList_ofList,
        List.map_eq_nil_iff]

theorem encodeText_isEmpty (attr : Attribute) (text : String) :
    (attr.encodeText text).isEmpty = text.isEmpty := by
  unfold encodeText
  cases attr.domain.table? with
  | none => rfl
  | some table =>
      rw [Bool.eq_iff_iff]
      simp only [String.isEmpty_iff, ← String.toList_eq_nil_iff, String.toList_ofList,
        List.map_eq_nil_iff]

/-- The number of a code is written as one letter, which is read as the code. -/
theorem decodeLiteral?_encodeText {attr : Attribute} {table : List LetterCode} {entry : LetterCode}
    (tabled : attr.domain.table? = some table) (member : entry ∈ table) :
    Parser.stripBraces (attr.encodeText (Nat.repr entry.code)) = none ∧
      attr.decodeLiteral? (attr.encodeText (Nat.repr entry.code)) = some entry.code := by
  revert entry
  cases attr <;> cases tabled <;> decide +kernel

theorem decodeLiteral?_eq_some {attr : Attribute} {text : String} {code : Nat}
    (decoded : attr.decodeLiteral? text = some code) :
    Exists fun table => Exists fun entry =>
      attr.domain.table? = some table ∧ entry ∈ table ∧ entry.code = code := by
  unfold decodeLiteral? at decoded
  cases tabled : attr.domain.table? with
  | none => rw [tabled] at decoded; cases decoded
  | some table =>
      rw [tabled] at decoded
      simp only [Option.bind_eq_bind, Option.bind_some] at decoded
      split at decoded
      next c shown =>
        rcases Option.map_eq_some_iff.mp decoded with ⟨entry, found, same⟩
        exact ⟨table, entry, rfl, List.mem_of_find?_eq_some found, same⟩
      next => cases decoded

end Attribute

/-! ## Well-formed terms -/

namespace Attribute

/-- Free text is compared or matched as it is. -/
def IsFree (attr : Attribute) : Prop :=
  attr.domain = .text ∨ attr.domain = .externalCodes

theorem domain_cases (attr : Attribute) :
    attr.IsFree ∨ attr.domain = .numeric ∨
      Exists fun table => attr.domain.table? = some table := by
  cases domain : attr.domain with
  | text => exact Or.inl (Or.inl domain)
  | externalCodes => exact Or.inl (Or.inr domain)
  | numeric => exact Or.inr (Or.inl rfl)
  | categorical table => exact Or.inr (Or.inr ⟨table, rfl⟩)
  | presence table => exact Or.inr (Or.inr ⟨table, rfl⟩)

theorem IsFree.table? {attr : Attribute} (free : attr.IsFree) : attr.domain.table? = none := by
  rcases free with domain | domain <;> rw [domain] <;> rfl

/-- There is one table of codes that tell whether a field is set. -/
theorem table_of_presence {attr : Attribute} {table : List LetterCode}
    (domain : attr.domain = .presence table) : table = narrativeTable := by
  cases attr <;> cases domain
  rfl

end Attribute

namespace Term

variable [Pattern.Engine]

/-- The text of a term in a domain, as the reader leaves it.  Only letter tables
and free text know patterns; a literal in free text is not in braces, or it
would have been a pattern. -/
def WellFormed (term : Term) : Prop :=
  match term.attr.domain with
  | .text | .externalCodes =>
    if term.isPattern then term.text.isEmpty = false ∧ Pattern.isValid term.text = true
    else Parser.stripBraces term.text = none
  | .numeric =>
    term.isPattern = false ∧ Text.trim term.text = term.text ∧
      (splitComparison? term.text).isSome = true
  | .categorical table | .presence table =>
    if term.isPattern then
      term.text.isEmpty = false ∧ Pattern.isValid term.text = true ∧
        forall c, c ∈ term.text.toList -> LetterCode.Refuses table c
    else Exists fun entry => entry ∈ table ∧ term.text = Nat.repr entry.code

theorem wellFormed_free {term : Term} (free : term.attr.IsFree) :
    term.WellFormed <->
      if term.isPattern then term.text.isEmpty = false ∧ Pattern.isValid term.text = true
      else Parser.stripBraces term.text = none := by
  rcases free with domain | domain <;> rw [WellFormed, domain]

theorem wellFormed_tabled {term : Term} {table : List LetterCode}
    (tabled : term.attr.domain.table? = some table) :
    term.WellFormed <->
      if term.isPattern then
        term.text.isEmpty = false ∧ Pattern.isValid term.text = true ∧
          forall c, c ∈ term.text.toList -> LetterCode.Refuses table c
      else Exists fun entry => entry ∈ table ∧ term.text = Nat.repr entry.code := by
  unfold WellFormed
  cases domain : term.attr.domain <;> rw [domain] at tabled <;> cases tabled <;> rfl

end Term

namespace Parser

/-- The text without the braces of a pattern. -/
def bareText (written : String) : String :=
  (stripBraces written).getD written

/-- Whether the text is marked as a pattern.  Empty braces mark nothing. -/
def marksPattern (written : String) : Bool :=
  (stripBraces written).isSome && !(bareText written).isEmpty

theorem bareText_of_unbraced {written : String} (unbraced : stripBraces written = none) :
    bareText written = written ∧ marksPattern written = false := by
  rw [marksPattern, bareText, unbraced]
  exact ⟨rfl, rfl⟩

theorem bareText_braced (inner : String) :
    bareText (String.ofList ('{' :: (inner.toList ++ ['}']))) = inner ∧
      marksPattern (String.ofList ('{' :: (inner.toList ++ ['}']))) = !inner.isEmpty := by
  rw [marksPattern, bareText, stripBraces_braced, String.ofList_toList]
  exact ⟨rfl, rfl⟩

theorem isEmpty_of_marksPattern {written : String} (marked : marksPattern written = true) :
    (bareText written).isEmpty = false := by
  unfold marksPattern at marked
  rw [Bool.and_eq_true, Bool.not_eq_true'] at marked
  exact marked.2

/-- A literal in free text has no braces: either there were none to strip, or
nothing was between them. -/
theorem stripBraces_bareText {written : String} (literal : marksPattern written = false) :
    stripBraces (bareText written) = none := by
  unfold marksPattern bareText at literal
  unfold bareText
  cases stripped : stripBraces written with
  | none => rw [Option.getD_none, stripped]
  | some inner =>
      rw [stripped] at literal
      have empty : inner = "" := by simpa using literal
      rw [Option.getD_some, empty]
      decide +kernel

variable [Pattern.Engine]

theorem termOfText_free {attr : Attribute} (free : attr.IsFree) (negated : Bool)
    (written : String) :
    termOfText attr negated written =
      if marksPattern written && !Pattern.isValid (bareText written) then .error .badPattern
      else .ok ⟨attr, bareText written, negated, marksPattern written⟩ := by
  rcases free with domain | domain <;> rw [termOfText, domain] <;> rfl

theorem termOfText_numeric {attr : Attribute} (domain : attr.domain = .numeric) (negated : Bool)
    (written : String) :
    termOfText attr negated written =
      if (bareText written).isEmpty then .error .emptyTerm
      else if marksPattern written || (splitComparison? (bareText written)).isNone then
        .error .badNumber
      else .ok ⟨attr, Text.trim (bareText written), negated, marksPattern written⟩ := by
  rw [termOfText, domain]
  rfl

theorem termOfText_tabled {attr : Attribute} {table : List LetterCode}
    (tabled : attr.domain.table? = some table) (negated : Bool) (written : String) :
    termOfText attr negated written =
      if (bareText written).isEmpty then .error .emptyTerm
      else if marksPattern written then
        if Pattern.isValid (attr.decodePattern (bareText written)) then
          .ok ⟨attr, attr.decodePattern (bareText written), negated, marksPattern written⟩
        else .error .badPattern
      else
        match attr.decodeLiteral? (bareText written) with
        | some code => .ok ⟨attr, Nat.repr code, negated, marksPattern written⟩
        | none => .error .badCategory := by
  cases domain : attr.domain with
  | text => rw [domain] at tabled; cases tabled
  | externalCodes => rw [domain] at tabled; cases tabled
  | numeric => rw [domain] at tabled; cases tabled
  | categorical letters => rw [termOfText, domain]; rfl
  | presence letters => rw [termOfText, domain]; rfl

theorem wellFormed_of_free {attr : Attribute} (free : attr.IsFree) {negated : Bool}
    {written : String} {term : Term} (built : termOfText attr negated written = .ok term) :
    term.attr = attr ∧ term.negated = negated ∧ term.WellFormed := by
  rw [termOfText_free free] at built
  split at built
  next => cases built
  next valid =>
    cases built
    refine ⟨rfl, rfl, (Term.wellFormed_free free).mpr ?_⟩
    cases marked : marksPattern written with
    | false =>
        rw [if_neg Bool.false_ne_true]
        exact stripBraces_bareText marked
    | true =>
        rw [if_pos rfl]
        simp only [marked, Bool.true_and, Bool.not_eq_true', Bool.not_eq_false] at valid
        exact ⟨isEmpty_of_marksPattern marked, valid⟩

theorem wellFormed_of_numeric {attr : Attribute} (domain : attr.domain = .numeric) {negated : Bool}
    {written : String} {term : Term} (built : termOfText attr negated written = .ok term) :
    term.attr = attr ∧ term.negated = negated ∧ term.WellFormed := by
  rw [termOfText_numeric domain] at built
  split at built
  next => cases built
  next =>
    split at built
    next => cases built
    next compares =>
      cases built
      simp only [Bool.or_eq_true, not_or, Bool.not_eq_true, Option.isNone_eq_false_iff] at compares
      refine ⟨rfl, rfl, ?_⟩
      simp only [Term.WellFormed, domain, splitComparison?_trim]
      exact ⟨compares.1, Text.trim_trim _, compares.2⟩

theorem wellFormed_of_tabled {attr : Attribute} {table : List LetterCode}
    (tabled : attr.domain.table? = some table) {negated : Bool} {written : String} {term : Term}
    (built : termOfText attr negated written = .ok term) :
    term.attr = attr ∧ term.negated = negated ∧ term.WellFormed := by
  rw [termOfText_tabled tabled] at built
  split at built
  next => cases built
  next nonempty =>
    split at built
    next marked =>
      split at built
      next valid =>
        cases built
        refine ⟨rfl, rfl, (Term.wellFormed_tabled tabled).mpr ?_⟩
        rw [if_pos marked]
        refine ⟨?_, valid, fun c member => Attribute.refuses_decodePattern tabled member⟩
        rw [Attribute.decodePattern_isEmpty]
        exact isEmpty_of_marksPattern marked
      next => cases built
    next literal =>
      split at built
      next code decoded =>
        cases built
        rcases Attribute.decodeLiteral?_eq_some decoded with ⟨letters, entry, found, member, rfl⟩
        rw [tabled] at found
        cases found
        refine ⟨rfl, rfl, (Term.wellFormed_tabled tabled).mpr ?_⟩
        rw [if_neg literal]
        exact ⟨entry, member, rfl⟩
      next => cases built

/-- The reader keeps attribute and negation, and what it builds is well formed. -/
theorem wellFormed_of_termOfText {attr : Attribute} {negated : Bool} {written : String}
    {term : Term}
    (built : termOfText attr negated written = .ok term) :
    term.attr = attr ∧ term.negated = negated ∧ term.WellFormed := by
  rcases attr.domain_cases with free | domain | ⟨table, tabled⟩
  · exact wellFormed_of_free free built
  · exact wellFormed_of_numeric domain built
  · exact wellFormed_of_tabled tabled built

theorem termOfText_shownText_free {term : Term} (free : term.attr.IsFree)
    (formed : term.WellFormed) :
    termOfText term.attr term.negated (String.ofList term.shownText) = .ok term := by
  rcases term with ⟨attr, text, negated, isPattern⟩
  have formed := (Term.wellFormed_free free).mp formed
  rw [termOfText_free free]
  simp only [Term.shownText, Attribute.encodeText_of_no_table free.table?]
  cases isPattern with
  | false =>
      have literal := bareText_of_unbraced formed
      simp only [Bool.false_eq_true, if_false, String.ofList_toList, literal, Bool.false_and]
  | true =>
      have braced := bareText_braced text
      rw [if_pos rfl] at formed
      simp only [if_true, braced, formed, Bool.not_false, Bool.not_true, Bool.and_false,
        Bool.false_eq_true, if_false]

theorem termOfText_shownText_numeric {term : Term} (domain : term.attr.domain = .numeric)
    (formed : term.WellFormed) :
    termOfText term.attr term.negated (String.ofList term.shownText) = .ok term := by
  rcases term with ⟨attr, text, negated, isPattern⟩
  have formed : isPattern = false ∧ Text.trim text = text ∧
      (splitComparison? text).isSome = true := by
    simpa only [Term.WellFormed, domain] using formed
  rcases formed with ⟨rfl, trimmed, compares⟩
  rcases Option.isSome_iff_exists.mp compares with ⟨split, shown⟩
  have literal := bareText_of_unbraced (stripBraces_of_splitComparison? shown)
  have untabled : attr.domain.table? = none := by
    change attr.domain = .numeric at domain
    rw [domain]
    rfl
  have nonempty : text.isEmpty = false := by
    cases empty : text.isEmpty with
    | false => rfl
    | true =>
        rw [String.isEmpty_iff.mp empty] at compares
        revert compares
        decide +kernel
  rw [termOfText_numeric domain]
  simp only [Term.shownText, Attribute.encodeText_of_no_table untabled, Bool.false_eq_true,
    if_false, String.ofList_toList, literal, nonempty, Bool.false_or, trimmed,
    Option.isNone_eq_false_iff.mpr compares]

theorem termOfText_shownText_tabled {term : Term} {table : List LetterCode}
    (tabled : term.attr.domain.table? = some table) (formed : term.WellFormed) :
    termOfText term.attr term.negated (String.ofList term.shownText) = .ok term := by
  rcases term with ⟨attr, text, negated, isPattern⟩
  have formed := (Term.wellFormed_tabled tabled).mp formed
  rw [termOfText_tabled tabled]
  cases isPattern with
  | false =>
      rw [if_neg Bool.false_ne_true] at formed
      rcases formed with ⟨entry, member, rfl⟩
      rcases Attribute.decodeLiteral?_encodeText tabled member with ⟨unbraced, decoded⟩
      have literal := bareText_of_unbraced unbraced
      have nonempty : (Nat.repr entry.code).isEmpty = false := by
        rw [Bool.eq_false_iff, Ne, String.isEmpty_iff]
        exact Nat.repr_ne_empty
      simp only [Term.shownText, Bool.false_eq_true, if_false, String.ofList_toList, literal,
        decoded, Attribute.encodeText_isEmpty, nonempty]
  | true =>
      rw [if_pos rfl] at formed
      have braced := bareText_braced (attr.encodeText text)
      simp only [Term.shownText, if_true, braced, Attribute.encodeText_isEmpty, formed,
        Bool.false_eq_true, if_false, Bool.not_false,
        Attribute.decodePattern_encodeText tabled formed.2.2]

/-- A well-formed term is built again from its written text. -/
theorem termOfText_shownText {term : Term} (formed : term.WellFormed) :
    termOfText term.attr term.negated (String.ofList term.shownText) = .ok term := by
  rcases term.attr.domain_cases with free | domain | ⟨table, tabled⟩
  · exact termOfText_shownText_free free formed
  · exact termOfText_shownText_numeric domain formed
  · exact termOfText_shownText_tabled tabled formed

end Parser

end CorpusQuery
