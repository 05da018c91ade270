import CorpusQuery.Pattern.Standard
import CorpusQuery.Proofs.Query.RoundTrip

namespace CorpusQuery

/-!
# Queries put together without reading

A query need not come from a text.  Nodes are started with one member and grow
by adding further ones, and a term may hold any text with any marks.  Such a
query has a canonical text as well, but the reader takes that text for the same
query only if it could have built every term itself.

`Term.Expressible` says by domain which terms these are.  Adding members drops
repetitions, so the shape of a query that was put together never stands in the
way: the terms alone decide.
-/

/-! ## Nodes that are put together -/

inductive TermSet.Built : TermSet -> Prop
  | single (term : Term) : Built ⟨term, []⟩
  | push {set : TermSet} (built : Built set) (term : Term) : Built (set.push term)

inductive WordPosition.Built : WordPosition -> Prop
  | single {set : TermSet} (member : set.Built) : Built ⟨set, []⟩
  | push {word : WordPosition} {set : TermSet} (built : Built word) (member : set.Built) :
      Built (word.push set)

inductive Phrase.Built : Phrase -> Prop
  | single {word : WordPosition} (member : word.Built) : Built ⟨word, []⟩
  | push {phrase : Phrase} {word : WordPosition} (built : Built phrase) (member : word.Built) :
      Built (phrase.push word)

/-- Queries made by starting nodes with one member and adding others. -/
inductive Query.Built : Query -> Prop
  | single {phrase : Phrase} (member : phrase.Built) : Built ⟨phrase, []⟩
  | push {query : Query} {phrase : Phrase} (built : Built query) (member : phrase.Built) :
      Built (query.push phrase)

/-- Adding terms leaves no term twice. -/
theorem TermSet.Built.eraseDups_terms {set : TermSet} (built : set.Built) :
    set.terms.eraseDups = set.terms := by
  induction built with
  | single term => rfl
  | @push set built term ih =>
      by_cases member : term ∈ set.terms
      · rw [terms_push_of_mem member, ih]
      · rw [terms_push_of_not_mem member, eraseDups_concat_of_not_mem member, ih]

/-- Adding sets leaves no set twice, and no term twice in any of them. -/
theorem WordPosition.Built.tree_free {word : WordPosition} (built : word.Built) :
    word.tree.map List.eraseDups = word.tree ∧ word.tree.eraseDups = word.tree := by
  induction built with
  | @single set member =>
      refine ⟨?_, rfl⟩
      change [set.terms.eraseDups] = [set.terms]
      rw [member.eraseDups_terms]
  | @push word set built member ih =>
      by_cases present : set.terms ∈ word.tree
      · rw [tree_push_of_mem present]
        exact ih
      · rw [tree_push_of_not_mem present, List.map_append, ih.1,
          eraseDups_concat_of_not_mem present, ih.2]
        refine ⟨?_, rfl⟩
        rw [List.map_singleton, member.eraseDups_terms]

theorem WordPosition.Built.collapseWord_tree {word : WordPosition} (built : word.Built) :
    Grammar.collapseWord word.tree = word.tree := by
  rw [Grammar.collapseWord, built.tree_free.1, built.tree_free.2]

theorem Phrase.Built.collapse_tree {phrase : Phrase} (built : phrase.Built) :
    phrase.tree.map Grammar.collapseWord = phrase.tree := by
  induction built with
  | @single word member =>
      change [Grammar.collapseWord word.tree] = [word.tree]
      rw [member.collapseWord_tree]
  | push built member ih =>
      rw [tree_push, List.map_append, ih, List.map_singleton, member.collapseWord_tree]

/-- A query that was put together has no repetitions to collapse. -/
theorem Query.Built.collapse_tree {query : Query} (built : query.Built) :
    Grammar.collapse query.tree = query.tree := by
  induction built with
  | @single phrase member =>
      change [phrase.tree.map Grammar.collapseWord] = [phrase.tree]
      rw [member.collapse_tree]
  | push built member ih =>
      rw [tree_push, Grammar.collapse, List.map_append, List.map_singleton, member.collapse_tree]
      rw [Grammar.collapse] at ih
      rw [ih]

/-! ## Expressible terms -/

/-- The text stands between the braces of a pattern. -/
def Text.Braced (text : String) : Prop :=
  Exists fun inner => text.toList = '{' :: (inner ++ ['}'])

/-- The character is a letter of the table, in either case. -/
def LetterCode.IsLetter (table : List LetterCode) (c : Char) : Prop :=
  Exists fun entry => entry ∈ table ∧ Text.lowerAscii c ∈ entry.letters

theorem Text.braced_iff {text : String} : Braced text <-> Parser.stripBraces text ≠ none := by
  constructor
  · rintro ⟨inner, shown⟩ none
    rw [<- String.ofList_toList (s := text), shown, Parser.stripBraces_braced] at none
    cases none
  · intro some
    rcases Option.ne_none_iff_exists'.mp some with ⟨inner, stripped⟩
    exact ⟨inner.toList, Parser.eq_braced_of_stripBraces stripped⟩

theorem LetterCode.refuses_iff {table : List LetterCode} {c : Char} :
    Refuses table c <-> ¬ IsLetter table c := by
  constructor
  · rintro refuses ⟨entry, member, letter⟩
    have accepted : entry.accepts c = true := List.contains_iff_mem.mpr letter
    rw [refuses entry member] at accepted
    cases accepted
  · intro other entry member
    rw [Bool.eq_false_iff]
    intro accepted
    exact other ⟨entry, member, List.contains_iff_mem.mp accepted⟩

/-- Terms that a query text can ask for.  A literal in braces would be a pattern,
numbers stand without blanks around them and are never patterns, and in a domain
with letters a literal is the number of a code and a pattern has no letter left. -/
def Term.Expressible [Pattern.Engine] (term : Term) : Prop :=
  match term.attr.domain with
  | .text | .externalCodes =>
    if term.isPattern then term.text ≠ "" ∧ Pattern.isValid term.text = true
    else ¬ Text.Braced term.text
  | .numeric =>
    term.isPattern = false ∧ Text.trim term.text = term.text ∧
      (splitComparison? term.text).isSome = true
  | .categorical table | .presence table =>
    if term.isPattern then
      term.text ≠ "" ∧ Pattern.isValid term.text = true ∧
        forall c, c ∈ term.text.toList -> ¬ LetterCode.IsLetter table c
    else Exists fun entry => entry ∈ table ∧ term.text = Nat.repr entry.code

/-- The expressible terms are those that the reader leaves. -/
theorem Term.expressible_iff_wellFormed [Pattern.Engine] {term : Term} :
    term.Expressible <-> term.WellFormed := by
  unfold Expressible WellFormed
  cases term.attr.domain with
  | text => simp only [Text.braced_iff, String.isEmpty_eq_false_iff, Decidable.not_not]
  | externalCodes => simp only [Text.braced_iff, String.isEmpty_eq_false_iff, Decidable.not_not]
  | numeric => rfl
  | categorical table =>
      simp only [String.isEmpty_eq_false_iff, LetterCode.refuses_iff]
  | presence table =>
      simp only [String.isEmpty_eq_false_iff, LetterCode.refuses_iff]

/-! ## Canonical texts -/

namespace Query

/-- The canonical text of a query that was put together is read as that query
exactly when all of its terms are expressible. -/
theorem parse_canonical_iff_expressible [Pattern.Engine] {query : Query} (built : query.Built) :
    parse query.canonical = .ok query <->
      forall phrase, phrase ∈ query.phrases -> forall word, word ∈ phrase.words ->
        forall set, set ∈ word.sets -> forall term, term ∈ set.terms -> term.Expressible := by
  simp only [Term.expressible_iff_wellFormed]
  constructor
  · intro accepted
    exact (wellFormed_of_parse accepted).1
  · intro formed
    exact parse_canonical_of_wellFormed formed built.collapse_tree

/-- A query with a term added twice, a pattern on codes and a text that needs
quotes is read back.  With a literal in braces it is not, since the braces make
it a pattern. -/
theorem parse_canonical_iff_expressible_of_braces :
    let gender : Term := ⟨.speakerGender, "0|1", false, true⟩
    let year : Term := ⟨.publicationYearEarly, ">= 1600", true, false⟩
    let asking (text : String) : Query :=
      ⟨⟨⟨((TermSet.mk gender []).push year).push gender, []⟩,
        [⟨⟨⟨.spelling, text, false, false⟩, []⟩, []⟩]⟩, []⟩
    (parse (asking "a \"b\"").canonical = .ok (asking "a \"b\"") ∧ gender.Expressible) ∧
      ¬ parse (asking "\x7bb\x7d").canonical = .ok (asking "\x7bb\x7d") := by
  intro gender year asking
  have built : forall text, (asking text).Built := fun text =>
    .single (.push (.single (.single (.push (.push (.single gender) year) gender)))
      (.single (.single _)))
  have read : (parse (asking "a \"b\"").canonical).toOption = some (asking "a \"b\"") := by
    decide +kernel
  have accepted := parse_eq_ok_of_toOption read
  refine ⟨⟨accepted, ?_⟩, ?_⟩
  · have each := (parse_canonical_iff_expressible (built _)).mp accepted
    exact each _ List.mem_cons_self _ List.mem_cons_self _ List.mem_cons_self gender
      (by decide +kernel)
  · intro same
    have each := (parse_canonical_iff_expressible (built _)).mp same
    have literal : ¬ Text.Braced "\x7bb\x7d" := each _ List.mem_cons_self _
      (List.mem_cons_of_mem _ List.mem_cons_self) _ List.mem_cons_self _ List.mem_cons_self
    exact literal ⟨['b'], by decide⟩

end Query

end CorpusQuery
