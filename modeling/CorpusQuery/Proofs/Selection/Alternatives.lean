import CorpusQuery.Pattern.Standard
import CorpusQuery.Proofs.Selection.Verdicts

namespace CorpusQuery

open Store

/-!
# Alternatives of a position

A word position lists alternative term sets, and any of them may hold.  A set
whose terms all ask for nothing holds of every word.  Yet the written condition
of a position leaves such a set out, and falsity, not truth, is the unit of a
disjunction.

So the written condition says that one of the sets holds as long as all sets ask
for something, or none does.  Beside a set that asks for something, a set that
asks for nothing is lost, and the position refuses words that this set admits.
-/

variable {Object : Type} [DecidableEq Object]

/-! ## Sets that ask for nothing -/

namespace TermSet

variable [Pattern.Engine]

theorem predicate_eq_empty {set : TermSet} {scope : Scope} :
    set.predicate scope = "" <-> set.condition? scope = none := by
  unfold predicate
  cases set.condition? scope with
  | none => exact ⟨fun _ => rfl, fun _ => rfl⟩
  | some conditions =>
      have opened : Condition.renderAll conditions ≠ "" := by
        intro empty
        have chars := congrArg String.toList empty
        rw [Condition.renderAll, String.append_assoc, String.toList_append] at chars
        cases chars
      exact ⟨fun empty => absurd empty opened, fun impossible => by cases impossible⟩

theorem test_eq_none {set : TermSet} {scope : Scope} (named : isName scope.wordAlias = true)
    (corpus : Corpus Object) (choice : Choice Object) :
    set.test scope.tags (scope.data corpus choice) = none <-> set.predicate scope = "" := by
  have meaning := set.truth_condition? named corpus choice
  change _ = set.test scope.tags (scope.data corpus choice) at meaning
  rw [<- meaning, Option.map_eq_none_iff, predicate_eq_empty]

end TermSet

/-! ## Positions -/

namespace WordPosition

section AnyEngine

variable [Pattern.Engine]

/-- The verdict on a position is that on its sets, without those that ask for
nothing. -/
theorem verdict?_predicate {word : WordPosition}
    (formed : forall term, term ∈ word.terms -> term.WellFormed) {scope : Scope}
    (named : isName scope.wordAlias = true) (corpus : Corpus Object) (choice : Choice Object) :
    corpus.verdict? choice (word.predicate scope) =
      some ((word.test scope.tags (scope.data corpus choice)).getD (some true)) := by
  have read : forall alternatives, word.condition? scope = some alternatives ->
      readCondition? (Condition.renderAny alternatives) =
        some [[(Clause.constraint alternatives).formula]] := by
    intro alternatives made
    have written := readCondition?_predicate formed named made
    rw [predicate, made] at written
    exact written
  rw [predicate, Corpus.verdict?_written read, word.truth_condition? named]
  rfl

theorem test_eq_true {word : WordPosition} {tags : TagSet} {data : Attribute -> Datum Object} :
    (word.test tags data).getD (some true) = some true <->
      (forall set, set ∈ word.sets -> set.test tags data = none) ∨
        Exists fun set => set ∈ word.sets ∧ set.test tags data = some (some true) := by
  rw [<- List.filterMap_eq_nil_iff, <- List.mem_filterMap, <- Truth.any_eq_true]
  unfold test
  cases word.sets.filterMap fun set => set.test tags data with
  | nil => exact ⟨fun _ => Or.inl rfl, fun _ => rfl⟩
  | cons first rest => exact ⟨Or.inr, fun held => held.resolve_left (List.cons_ne_nil first rest)⟩

theorem grants_iff {word : WordPosition}
    (formed : forall term, term ∈ word.terms -> term.WellFormed) {scope : Scope}
    (named : isName scope.wordAlias = true) (corpus : Corpus Object) (choice : Choice Object) :
    corpus.Grants choice (word.predicate scope) <->
      (forall set, set ∈ word.sets -> set.predicate scope = "") ∨
        Exists fun set => set ∈ word.sets ∧ set.predicate scope ≠ "" ∧
          forall term, term ∈ set.terms -> corpus.Grants choice (term.predicate scope) := by
  have sets : forall set, set ∈ word.sets ->
      (set.test scope.tags (scope.data corpus choice) = some (some true) <->
        set.predicate scope ≠ "" ∧
          forall term, term ∈ set.terms -> corpus.Grants choice (term.predicate scope)) := by
    intro set member
    have legible : forall term, term ∈ set.terms -> term.Legible :=
      fun term inside => (formed term (mem_terms member inside)).legible
    rw [<- TermSet.grants_iff named corpus choice legible, Corpus.Grants,
      TermSet.verdict?_predicate named corpus choice legible, Option.some_inj, Ne,
      <- TermSet.test_eq_none named corpus choice]
    cases set.test scope.tags (scope.data corpus choice) <;> simp
  rw [Corpus.Grants, verdict?_predicate formed named, Option.some_inj, test_eq_true]
  refine or_congr (forall₂_congr fun set _ => TermSet.test_eq_none named corpus choice) ?_
  exact exists_congr fun set => and_congr_right fun member => sets set member

/-- A position that the reader returned is granted exactly when none of its sets asks
for anything, or when all terms of one that does are granted.  Unless a set that
asks for nothing stands beside one that does, this says that all terms of some set
are granted. -/
theorem grants_alternative {word : WordPosition} (returned : word.Returned) {scope : Scope}
    (named : isName scope.wordAlias = true) (corpus : Corpus Object) (choice : Choice Object) :
    (corpus.Grants choice (word.predicate scope) <->
      (forall set, set ∈ word.sets -> set.predicate scope = "") ∨
        Exists fun set => set ∈ word.sets ∧ set.predicate scope ≠ "" ∧
          forall term, term ∈ set.terms -> corpus.Grants choice (term.predicate scope)) ∧
    ((forall set, set ∈ word.sets -> set.predicate scope = "") ∨
        (forall set, set ∈ word.sets -> set.predicate scope ≠ "") ->
      (corpus.Grants choice (word.predicate scope) <->
        Exists fun set => set ∈ word.sets ∧
          forall term, term ∈ set.terms -> corpus.Grants choice (term.predicate scope))) := by
  have meaning := grants_iff returned.wellFormed named corpus choice
  have first : word.first ∈ word.sets := List.mem_cons_self
  refine ⟨meaning, ?_⟩
  rintro (nothing | something)
  · have granted : corpus.Grants choice (word.first.predicate scope) := by
      rw [nothing word.first first]
      exact Corpus.verdict?_empty
    have legible : forall term, term ∈ word.first.terms -> term.Legible :=
      fun term inside => (returned.wellFormed term (mem_terms first inside)).legible
    have terms := (TermSet.grants_iff named corpus choice legible).mp granted
    exact ⟨fun _ => ⟨word.first, first, terms⟩, fun _ => meaning.mpr (Or.inl nothing)⟩
  · rw [meaning]
    constructor
    · rintro (nothing | ⟨set, member, _, holds⟩)
      · exact absurd (nothing word.first first) (something word.first first)
      · exact ⟨set, member, holds⟩
    · rintro ⟨set, member, holds⟩
      exact Or.inr ⟨set, member, something set member, holds⟩

end AnyEngine

/-- Both sets ask for something, although one term of each asks for nothing: a word
has a speech or has none, and no known tag starts with the letter. -/
theorem grants_alternative_of_neutral_terms :
    let query : Query :=
      ⟨⟨⟨⟨⟨.narrative, "1|0", false, true⟩, [⟨.spelling, "love", false, false⟩]⟩,
        [⟨⟨.partOfSpeech, "^x", true, true⟩, [⟨.spelling, "hate", false, false⟩]⟩]⟩, []⟩, []⟩
    let word := query.first.first
    let scope := Compiler.scopeAt { tags := .ofList ["n", "vb"] } .wordId 0
    let corpus := Corpus.single "hate" "vb"
    let choice := [("w0", 0), ("wp0", 1)]
    Query.parse "nar(\"\x7by|n\x7d\"):spe(love);!pos(\x7b^x\x7d):spe(hate)" = .ok query ∧
      word.predicate scope = "((w0.spellingInsensitive.string = 'love') or " ++
        "(w0.spellingInsensitive.string = 'hate'))" ∧
      corpus.Grants choice (word.predicate scope) ∧
      Exists fun set => set ∈ word.sets ∧
        forall term, term ∈ set.terms -> corpus.Grants choice (term.predicate scope) := by
  intro query word scope corpus choice
  have read : (Query.parse "nar(\"\x7by|n\x7d\"):spe(love);!pos(\x7b^x\x7d):spe(hate)").toOption =
      some query := by decide +kernel
  have accepted := Query.parse_eq_ok_of_toOption read
  have returned : word.Returned := .inside accepted List.mem_cons_self List.mem_cons_self
  have named : isName scope.wordAlias = true := Compiler.isName_scopeAt 0
  have something : forall set, set ∈ word.sets -> set.predicate scope ≠ "" := by decide +kernel
  have granted : corpus.verdict? choice (word.predicate scope) = some (some true) := by
    decide +kernel
  exact ⟨accepted, by decide +kernel, granted,
    ((grants_alternative returned named corpus choice).2 (Or.inr something)).mp granted⟩

/-- The empty test admits every word, but not beside another alternative. -/
theorem not_grants_alternative_of_empty :
    let query : Query :=
      ⟨⟨⟨⟨⟨.spelling, "", false, false⟩, []⟩, [⟨⟨.spelling, "love", false, false⟩, []⟩]⟩, []⟩, []⟩
    let word := query.first.first
    let scope := Compiler.scopeAt {} .wordId 0
    let corpus := Corpus.single "hate" "vb"
    let choice := [("w0", 0), ("wp0", 1)]
    Query.parse "spe();spe(love)" = .ok query ∧
      word.predicate scope = "((w0.spellingInsensitive.string = 'love'))" ∧
      ¬ (corpus.Grants choice (word.predicate scope) <->
        Exists fun set => set ∈ word.sets ∧
          forall term, term ∈ set.terms -> corpus.Grants choice (term.predicate scope)) := by
  intro query word scope corpus choice
  have read : (Query.parse "spe();spe(love)").toOption = some query := by decide +kernel
  have refused : corpus.verdict? choice (word.predicate scope) ≠ some (some true) := by
    decide +kernel
  have admitted : forall term, term ∈ word.first.terms ->
      corpus.verdict? choice (term.predicate scope) = some (some true) := by decide +kernel
  refine ⟨Query.parse_eq_ok_of_toOption read, by decide +kernel, fun meaning => refused ?_⟩
  exact meaning.mpr ⟨word.first, List.mem_cons_self, admitted⟩

end WordPosition

end CorpusQuery
