import CorpusQuery.Pattern.Standard
import CorpusQuery.Proofs.Selection.Reading

namespace CorpusQuery

/-!
# How checked terms are written

The text of a term is checked when the term is read, and taken apart again when its
condition is written.  In between it changes: blanks go, and letters become codes.
The writer is prepared for text that nobody checked.  It compares a number that is
none as a literal, and leaves to the store a pattern that cannot be tried.

Terms that were read never come to that.  `Intended` lists the ways in which they
are written, one for each domain and for literals and patterns, with the whole
written condition.
-/

/-! ## Written conditions -/

namespace Condition

/-- A negation around a written condition, when asked. -/
def wrapped (negated : Bool) (text : String) : String :=
  if negated then "NOT (" ++ text ++ ")" else text

/-- A field and the value that it has, or has not. -/
def equation (negated : Bool) (field value : String) : String :=
  field ++ " " ++ (if negated then "<>" else "=") ++ " " ++ value

/-- A field and the values that it may have, or may not. -/
def listing (negated : Bool) (field : String) (values : List String) : String :=
  if values.isEmpty then (if negated then "" else "1 = 0")
  else field ++ (if negated then " NOT IN (" else " IN (") ++ Text.join ", " values ++ ")"

/-- A field that may be unset, and may be set. -/
def setting (field : String) : Bool -> Bool -> String
  | true, true => ""
  | true, false => field ++ " is null"
  | false, true => field ++ " is not null"
  | false, false => "1 = 0"

theorem render_negateIf (negated : Bool) (condition : Condition) :
    (negateIf negated condition).render = wrapped negated condition.render := by
  cases negated with
  | false => rfl
  | true =>
      rw [negateIf, if_pos rfl, render]
      rfl

end Condition

/-! ## Ways of writing -/

namespace Term

open Condition

/-- The codes of a letter table as texts. -/
def tableCodes (table : List LetterCode) : List String :=
  table.map fun entry => Nat.repr entry.code

theorem range_of_splitComparison? {text : String} {relation : Relation} {value : Int}
    (split : splitComparison? text = some (relation, value)) :
    -9223372036854775808 ≤ value ∧ value ≤ 9223372036854775807 := by
  unfold splitComparison? Comparison.splitChars? at split
  simp only [Option.bind_eq_bind, Option.bind_eq_some_iff] at split
  rcases split with ⟨_, _, operand, read, same⟩
  cases same
  have fits := (Option.filter_eq_some_iff.mp read).2
  simp only [Text.fits64, Bool.and_eq_true, decide_eq_true_eq] at fits
  omega

theorem render_equality (term : Term) (field : String) (operand : Operand) :
    (term.equality field operand).render = equation term.negated field operand.render := by
  rw [equality, render, equation]
  cases term.negated <;> rfl

theorem render_storeMatch (term : Term) (field : String) :
    (term.storeMatch field).render = wrapped term.negated
      ("match(" ++ field ++ ", " ++ Text.quoteLiteral term.text ++ ") <> 0") := by
  rw [storeMatch, render_negateIf, render]

variable [Pattern.Engine]

/-- A term is written as its domain asks, from a text that passes the checks. -/
inductive Intended (term : Term) (scope : Scope) : Prop where
  /-- A comparison with a number of 64 bits. -/
  | number {relation : Relation} {value : Int} (domain : term.attr.domain = .numeric)
      (literal : term.isPattern = false)
      (split : splitComparison? term.text = some (relation, value))
      (range : -9223372036854775808 ≤ value ∧ value ≤ 9223372036854775807)
      (written : term.predicate scope = wrapped term.negated
        (scope.field term.attr ++ " " ++ relation.sign ++ " " ++ Text.integerText value))
  /-- A code of the attribute's own table. -/
  | code {table : List LetterCode} {entry : LetterCode}
      (domain : term.attr.domain = .categorical table) (literal : term.isPattern = false)
      (known : entry ∈ table) (coded : term.text = Nat.repr entry.code)
      (written : term.predicate scope =
        equation term.negated (scope.field term.attr) (Nat.repr entry.code))
  /-- The codes of the table in which the pattern occurs. -/
  | codes {table : List LetterCode} {pattern : Pattern}
      (domain : term.attr.domain = .categorical table) (marked : term.isPattern = true)
      (compiled : Pattern.compile? term.text = some pattern)
      (written : term.predicate scope = listing term.negated (scope.field term.attr)
        ((tableCodes table).filter pattern.occursIn))
  /-- Whether the field is set, by a code of the table. -/
  | state {table : List LetterCode} {entry : LetterCode}
      (domain : term.attr.domain = .presence table) (literal : term.isPattern = false)
      (known : entry ∈ table) (coded : term.text = Nat.repr entry.code)
      (selected : forall code, code ∈ term.presenceCodes (table.map LetterCode.code) <->
        code ∈ table.map LetterCode.code ∧ (entry.code == code) != term.negated)
      (written : term.predicate scope = setting (scope.field term.attr)
        ((entry.code == 1) != term.negated) ((entry.code == 0) != term.negated))
  /-- Whether the field is set, by the codes of the table in which the pattern
  occurs. -/
  | states {table : List LetterCode} {pattern : Pattern}
      (domain : term.attr.domain = .presence table) (marked : term.isPattern = true)
      (compiled : Pattern.compile? term.text = some pattern)
      (selected : forall code, code ∈ term.presenceCodes (table.map LetterCode.code) <->
        code ∈ table.map LetterCode.code ∧ pattern.occursIn (Nat.repr code) != term.negated)
      (written : term.predicate scope = setting (scope.field term.attr)
        (pattern.occursIn "1" != term.negated) (pattern.occursIn "0" != term.negated))
  /-- The known tags in which the pattern occurs. -/
  | tags {pattern : Pattern} (domain : term.attr.domain = .externalCodes)
      (marked : term.isPattern = true) (known : scope.tags.isEmpty = false)
      (compiled : Pattern.compile? term.text = some pattern)
      (written : term.predicate scope = listing term.negated (scope.field term.attr)
        ((scope.tags.codes.filter pattern.occursIn).map Text.quoteLiteral))
  /-- A pattern that the store matches, because there are no codes to try. -/
  | found {pattern : Pattern} (free : term.attr.IsFree) (marked : term.isPattern = true)
      (untried : term.attr.domain = .text ∨ scope.tags.isEmpty = true)
      (compiled : Pattern.compile? term.text = some pattern)
      (written : term.predicate scope = wrapped term.negated
        ("match(" ++ scope.field term.attr ++ ", " ++ Text.quoteLiteral term.text ++ ") <> 0"))
  | literal (free : term.attr.IsFree) (literal : term.isPattern = false)
      (written : term.predicate scope =
        equation term.negated (scope.field term.attr) (Text.quoteLiteral term.text))

theorem predicate_of_filled {term : Term} (filled : term.isEmpty = false) (scope : Scope) :
    term.predicate scope =
      ((term.conditionOn scope (scope.field term.attr)).map Condition.render).getD "" := by
  rw [predicate, condition?, filled]
  rfl

/-! ## Numbers -/

theorem intended_numeric {term : Term} (domain : term.attr.domain = .numeric)
    (formed : term.WellFormed) (filled : term.isEmpty = false) (scope : Scope) :
    term.Intended scope := by
  rw [WellFormed, domain] at formed
  rcases Option.isSome_iff_exists.mp formed.2.2 with ⟨⟨relation, value⟩, split⟩
  refine .number domain formed.1 split (range_of_splitComparison? split) ?_
  rw [predicate_of_filled filled, conditionOn, domain, Option.map_some, Option.getD_some,
    comparison, render_negateIf, split]
  rfl

/-! ## Literals and patterns -/

/-- A pattern that was checked is tried on the codes, and nothing is left to the
store. -/
theorem render_membership {term : Term} {pattern : Pattern}
    (compiled : Pattern.compile? term.text = some pattern) (field : String) (codes : List String)
    (operand : String -> Operand) :
    ((term.membership field codes operand).map Condition.render).getD "" =
      listing term.negated field
        ((codes.filter pattern.occursIn).map fun code => (operand code).render) := by
  rw [membership, matchingCodes?, compiled, Option.map_some]
  cases codes.filter pattern.occursIn with
  | nil => cases term.negated <;> rfl
  | cons first rest =>
      rw [Option.map_some, Option.getD_some, render, List.map_map]
      rfl

theorem intended_categorical {term : Term} {table : List LetterCode}
    (domain : term.attr.domain = .categorical table) (formed : term.WellFormed)
    (filled : term.isEmpty = false) (scope : Scope) : term.Intended scope := by
  have written := predicate_of_filled filled scope
  rw [conditionOn, domain] at written
  rw [WellFormed, domain] at formed
  cases pattern : term.isPattern <;> simp only [pattern] at formed written
  · rcases formed with ⟨entry, known, coded⟩
    refine .code domain pattern known coded (written.trans ?_)
    rw [<- coded]
    exact term.render_equality _ (.code term.text)
  · rcases Option.isSome_iff_exists.mp formed.2.1 with ⟨compiled, shown⟩
    refine .codes domain pattern shown (written.trans ?_)
    refine (render_membership shown _ _ .code).trans ?_
    rw [tableCodes]
    congr 1
    exact List.map_id' _

theorem intended_external {term : Term} (domain : term.attr.domain = .externalCodes)
    (formed : term.WellFormed) (filled : term.isEmpty = false) (scope : Scope) :
    term.Intended scope := by
  have free : term.attr.IsFree := Or.inr domain
  have written := predicate_of_filled filled scope
  rw [conditionOn, domain] at written
  rw [wellFormed_free free] at formed
  cases pattern : term.isPattern <;> simp only [pattern] at formed written
  · exact .literal free pattern (written.trans (term.render_equality _ (.literal term.text)))
  · rcases Option.isSome_iff_exists.mp formed.2 with ⟨compiled, shown⟩
    cases untried : scope.tags.isEmpty <;> simp only [untried] at written
    · refine .tags domain pattern untried shown (written.trans ?_)
      exact render_membership shown _ _ .literal
    · exact .found free pattern (Or.inr untried) shown (written.trans (term.render_storeMatch _))

theorem intended_text {term : Term} (domain : term.attr.domain = .text) (formed : term.WellFormed)
    (filled : term.isEmpty = false) (scope : Scope) : term.Intended scope := by
  have free : term.attr.IsFree := Or.inl domain
  have written := predicate_of_filled filled scope
  rw [conditionOn, domain] at written
  rw [wellFormed_free free] at formed
  cases pattern : term.isPattern <;> simp only [pattern] at formed written
  · exact .literal free pattern (written.trans (term.render_equality _ (.literal term.text)))
  · rcases Option.isSome_iff_exists.mp formed.2 with ⟨compiled, shown⟩
    exact .found free pattern (Or.inl domain) shown (written.trans (term.render_storeMatch _))

/-! ## Set and unset fields -/

theorem render_presence (term : Term) (field : String) (codes : List Nat) :
    ((term.presence field codes).map Condition.render).getD "" =
      setting field ((term.presenceCodes codes).contains 1)
        ((term.presenceCodes codes).contains 0) := by
  rw [presence]
  cases (term.presenceCodes codes).contains 1 <;>
    cases (term.presenceCodes codes).contains 0 <;> rfl

/-- A negated term selects the codes that it would not select otherwise. -/
theorem mem_presenceCodes {term : Term} {codes : List Nat} (chosen : Nat -> Bool)
    (affirmed : forall code, code ∈ presenceCodes { term with negated := false } codes <->
      code ∈ codes ∧ chosen code = true) (code : Nat) :
    code ∈ term.presenceCodes codes <-> code ∈ codes ∧ (chosen code != term.negated) = true := by
  rcases term with ⟨attr, text, negated, isPattern⟩
  cases negated with
  | false =>
      rw [Bool.bne_false]
      exact affirmed code
  | true =>
      change code ∈ (codes.filter fun code =>
        !(presenceCodes ⟨attr, text, false, isPattern⟩ codes).contains code) <-> _
      rw [List.mem_filter, Bool.bne_true, Bool.not_eq_true', Bool.not_eq_true', Bool.eq_false_iff,
        Ne, List.contains_iff_mem, affirmed code]
      constructor
      · rintro ⟨known, other⟩
        exact ⟨known, Bool.eq_false_iff.mpr fun picked => other ⟨known, picked⟩⟩
      · rintro ⟨known, other⟩
        exact ⟨known, fun picked => Bool.eq_false_iff.mp other picked.2⟩

theorem contains_presenceCodes {term : Term} {codes : List Nat} {chosen : Nat -> Bool}
    (selected : forall code, code ∈ term.presenceCodes codes <->
      code ∈ codes ∧ (chosen code != term.negated) = true) {code : Nat} (known : code ∈ codes) :
    (term.presenceCodes codes).contains code = (chosen code != term.negated) := by
  rw [Bool.eq_iff_iff, List.contains_iff_mem, selected code]
  exact and_iff_right known

theorem mem_presenceCodes_literal {term : Term} (literal : term.isPattern = false)
    {entry : LetterCode} (known : entry ∈ Attribute.narrativeTable)
    (coded : term.text = Nat.repr entry.code) (code : Nat) :
    code ∈ term.presenceCodes (Attribute.narrativeTable.map LetterCode.code) <->
      code ∈ Attribute.narrativeTable.map LetterCode.code ∧
        ((entry.code == code) != term.negated) = true := by
  have bytes : forall entry, entry ∈ Attribute.narrativeTable ->
      Text.byte? (Nat.repr entry.code).toList = some entry.code := by decide
  refine mem_presenceCodes (fun code => entry.code == code) (fun code => ?_) code
  have picked : presenceCodes { term with negated := false }
      (Attribute.narrativeTable.map LetterCode.code) = [entry.code] := by
    rw [presenceCodes, literal, coded, bytes entry known]
    rfl
  rw [picked, List.mem_singleton, beq_iff_eq]
  constructor
  · intro same
    exact ⟨same ▸ List.mem_map_of_mem known, same.symm⟩
  · exact fun both => both.2.symm

theorem mem_presenceCodes_pattern {term : Term} (marked : term.isPattern = true)
    {pattern : Pattern} (compiled : Pattern.compile? term.text = some pattern) (codes : List Nat)
    (code : Nat) :
    code ∈ term.presenceCodes codes <->
      code ∈ codes ∧ (pattern.occursIn (Nat.repr code) != term.negated) = true := by
  refine mem_presenceCodes (fun code => pattern.occursIn (Nat.repr code)) (fun code => ?_) code
  have picked : presenceCodes { term with negated := false } codes =
      codes.filter fun code => pattern.occursIn (Nat.repr code) := by
    rw [presenceCodes, marked, compiled]
    rfl
  rw [picked, List.mem_filter]

theorem intended_presence {term : Term} {table : List LetterCode}
    (domain : term.attr.domain = .presence table) (formed : term.WellFormed)
    (filled : term.isEmpty = false) (scope : Scope) : term.Intended scope := by
  have written := predicate_of_filled filled scope
  rw [conditionOn, domain] at written
  replace written := written.trans (render_presence _ _ _)
  rw [WellFormed, domain] at formed
  cases Attribute.table_of_presence domain
  cases pattern : term.isPattern <;> simp only [pattern] at formed
  · rcases formed with ⟨entry, known, coded⟩
    have selected := mem_presenceCodes_literal pattern known coded
    refine .state domain pattern known coded selected (written.trans ?_)
    rw [contains_presenceCodes selected (by decide), contains_presenceCodes selected (by decide)]
  · rcases Option.isSome_iff_exists.mp formed.2.1 with ⟨compiled, shown⟩
    have selected := mem_presenceCodes_pattern pattern shown
      (Attribute.narrativeTable.map LetterCode.code)
    refine .states domain pattern shown selected (written.trans ?_)
    rw [contains_presenceCodes selected (by decide), contains_presenceCodes selected (by decide)]
    rfl

/-! ## Terms that were read -/

theorem WellFormed.intended {term : Term} (formed : term.WellFormed) (filled : term.isEmpty = false)
    (scope : Scope) : term.Intended scope := by
  cases domain : term.attr.domain with
  | text => exact intended_text domain formed filled scope
  | externalCodes => exact intended_external domain formed filled scope
  | numeric => exact intended_numeric domain formed filled scope
  | categorical table => exact intended_categorical domain formed filled scope
  | presence table => exact intended_presence domain formed filled scope

end Term

namespace Query

/-- Every term of an accepted query that has text is written as its domain asks. -/
theorem terms_intended [Pattern.Engine] {text : String} {query : Query}
    (accepted : parse text = .ok query)
    {phrase : Phrase} (among : phrase ∈ query.phrases) {word : WordPosition}
    (within : word ∈ phrase.words) {term : Term} (member : term ∈ word.terms)
    (filled : term.isEmpty = false) (scope : Scope) : term.Intended scope := by
  have formed : term.WellFormed := Phrase.wellFormed_of_parse accepted among word within term member
  exact formed.intended filled scope

/-- Texts that change after their check: a number in blanks with a sign and leading
zeros, and letters in two cases that become codes, alone and in patterns. -/
theorem terms_intended_of_changed_texts :
    let text := "wpc(\" <= +007 \"):!spg(\"\x7bM|f\x7d\"):!nar(Y);pos(\x7b^v\x7d):nar(\x7b[nY]\x7d)"
    let word : WordPosition :=
      ⟨⟨⟨.wordPartCount, "<= +007", false, false⟩,
        [⟨.speakerGender, "0|1", true, true⟩, ⟨.narrative, "1", true, false⟩]⟩,
        [⟨⟨.partOfSpeech, "^v", false, true⟩, [⟨.narrative, "[01]", false, true⟩]⟩]⟩
    let scope : Scope := ⟨"w0", 0, .throughWord, .ofList ["v", "n'1"]⟩
    parse text = .ok ⟨⟨word, []⟩, []⟩ ∧
      word.terms.map (fun term => term.predicate scope) =
        ["w0.numWordParts <= 7", "w0.speech.gender.gender NOT IN (0, 1)",
          "w0.speech is not null", "wp0.lemPos.pos.tag IN ('v')", ""] ∧
      forall term, term ∈ word.terms -> term.isEmpty = false ∧ term.Intended scope := by
  intro text word scope
  have read : (parse text).toOption = some ⟨⟨word, []⟩, []⟩ := by decide +kernel
  have accepted := parse_eq_ok_of_toOption read
  have filled : forall term, term ∈ word.terms -> term.isEmpty = false := by decide +kernel
  refine ⟨accepted, by decide +kernel, fun term member => ⟨filled term member, ?_⟩⟩
  exact terms_intended accepted (List.mem_singleton_self _) (List.mem_singleton_self _) member
    (filled term member) scope

end Query

end CorpusQuery
