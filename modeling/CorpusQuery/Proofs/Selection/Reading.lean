import CorpusQuery.Pattern.Standard
import CorpusQuery.Proofs.Query.RoundTrip
import CorpusQuery.Proofs.Selection.Conditions
import CorpusQuery.Proofs.Selection.Positions
import CorpusQuery.Proofs.Selection.Written

namespace CorpusQuery

/-!
# Reading fragments back

Term texts, patterns and codes from outside may hold anything: quotes,
parentheses, commas and the keywords of the store.  None of it changes how a
fragment is read.  The store reads the fragment of every phrase of a query as
the statement that the phrase was turned into, and every literal in it as the
text it was made from.
-/

/-! ## Terms -/

namespace Term

theorem literals_map (operand : String -> Operand) (codes : List String) :
    ((codes.map operand).map Operand.value).flatMap Store.Value.literals =
      codes.flatMap fun code => (operand code).value.literals := by
  rw [List.map_map, List.flatMap_map]
  rfl

variable [Pattern.Engine]

theorem Asks.plain {term : Term} {scope : Scope} {inner : Condition} (asks : term.Asks scope inner)
    (path : Store.isPath (scope.field term.attr) = true) : inner.Plain := by
  cases asks with
  | number domain split => exact ⟨path, trivial⟩
  | code domain known coded => exact ⟨path, _, coded⟩
  | literal free literal => exact ⟨path, trivial⟩
  | found free pattern untried => exact path
  | codes domain some =>
      refine ⟨path, fun none => some (List.map_eq_nil_iff.mp none), ?_⟩
      intro operand member
      rcases List.mem_map.mp member with ⟨code, found, same⟩
      rcases List.mem_map.mp (List.mem_of_mem_filter found) with ⟨entry, _, written⟩
      rw [<- same]
      exact ⟨_, written.symm⟩
  | tags domain tried some =>
      refine ⟨path, fun none => some (List.map_eq_nil_iff.mp none), ?_⟩
      intro operand member
      rcases List.mem_map.mp member with ⟨code, _, same⟩
      rw [<- same]
      trivial
  | present domain expected => exact path
  | never none => trivial

/-- Every condition is one test, and it quotes exactly the texts of the term. -/
theorem Asks.atom {term : Term} {scope : Scope} {inner : Condition} (asks : term.Asks scope inner) :
    Exists fun single => inner.formula = .atom single ∧
      single.literals = term.literals scope.tags := by
  cases asks with
  | number domain split =>
      refine ⟨_, rfl, ?_⟩
      rw [literals, domain]
      rfl
  | code domain known coded =>
      refine ⟨_, rfl, ?_⟩
      rw [literals, domain]
      rfl
  | literal free literal =>
      have untried : (term.isPattern && !scope.tags.isEmpty) = false := by rw [literal]; rfl
      exact ⟨_, rfl, (literals_of_free free (Or.inr untried)).symm⟩
  | found free pattern untried =>
      refine ⟨_, rfl, (literals_of_free free (untried.imp_right ?_)).symm⟩
      intro empty
      rw [empty, Bool.not_true, Bool.and_false]
  | codes domain some =>
      refine ⟨_, rfl, ?_⟩
      rw [literals, domain, Store.Atom.literals, literals_map, List.flatMap_eq_nil_iff]
      exact fun _ _ => rfl
  | tags domain tried some =>
      refine ⟨_, rfl, ?_⟩
      rw [literals_of_tried domain tried, Store.Atom.literals, literals_map]
      exact List.flatMap_singleton' _
  | present domain expected =>
      refine ⟨_, rfl, ?_⟩
      rw [literals, domain]
      rfl
  | never none => exact ⟨_, rfl, none.symm⟩

theorem plain_of_condition? {term : Term} (formed : term.WellFormed) {scope : Scope}
    (named : Store.isName scope.wordAlias = true) {condition : Condition}
    (made : term.condition? scope = some condition) : condition.Plain := by
  rcases asksFor_of_condition? formed made with ⟨inner, asks, same⟩
  have plain := asks.plain (scope.dotted_field named term.attr).1
  rcases same with same | same <;> rw [same]
  · exact plain
  · exact plain

/-- What the store reads for a term, if the term asks for anything. -/
def formula? (term : Term) (scope : Scope) : Option Store.Formula :=
  (term.condition? scope).map Condition.formula

/-- The written condition of a term is read as one test, with or without a
negation, and the test quotes exactly the texts of the term. -/
def ReadsBack (term : Term) (scope : Scope) : Prop :=
  match term.formula? scope with
  | none => term.predicate scope = ""
  | some formula =>
    Store.readCondition? (term.predicate scope) = some [[formula]] ∧
      Exists fun single => (formula = .atom single ∨ formula = .group true [[.atom single]]) ∧
        single.literals = term.literals scope.tags

theorem readsBack {term : Term} (formed : term.WellFormed) {scope : Scope}
    (named : Store.isName scope.wordAlias = true) : term.ReadsBack scope := by
  unfold ReadsBack formula? predicate
  cases made : term.condition? scope with
  | none => rfl
  | some condition =>
      have plain := plain_of_condition? formed named made
      refine ⟨Store.readCondition?_of_lexes (Condition.lexes plain) (Condition.proper plain), ?_⟩
      rcases asksFor_of_condition? formed made with ⟨inner, asks, same⟩
      rcases asks.atom with ⟨single, test, quoted⟩
      refine ⟨single, ?_, quoted⟩
      rcases same with same | same <;> rw [same]
      · exact Or.inl test
      · rw [Condition.formula, test]
        exact Or.inr rfl

end Term

/-! ## Positions -/

/-- What the store reads for the terms of a set, in order. -/
def TermSet.formulas [Pattern.Engine] (set : TermSet) (scope : Scope) : List Store.Formula :=
  set.terms.filterMap fun term => term.formula? scope

namespace WordPosition

variable [Pattern.Engine]

/-- What the store reads for the sets of a position that ask for anything. -/
def formulas (word : WordPosition) (scope : Scope) : List (List Store.Formula) :=
  (word.sets.map fun set => set.formulas scope).filter fun conditions => !conditions.isEmpty

/-- The written condition of a position is read as alternatives, one for every
set that asks for anything, of what its terms ask for. -/
def ReadsBack (word : WordPosition) (scope : Scope) : Prop :=
  (match word.formulas scope with
    | [] => word.predicate scope = ""
    | alternatives =>
      Store.readCondition? (word.predicate scope) = some [[.either alternatives]]) ∧
    forall term, term ∈ word.terms -> term.ReadsBack scope

theorem formulas_eq (word : WordPosition) (scope : Scope) :
    word.formulas scope = (word.sets.filterMap fun set => set.condition? scope).map fun conditions =>
      conditions.map Condition.formula := by
  unfold formulas
  induction word.sets with
  | nil => rfl
  | cons set rest ih =>
      have made : set.formulas scope =
          (set.terms.filterMap fun term => term.condition? scope).map Condition.formula := by
        rw [List.map_filterMap]
        rfl
      rw [List.map_cons, List.filter_cons, ih, List.filterMap_cons, made, TermSet.condition?]
      cases set.terms.filterMap fun term => term.condition? scope <;> rfl

theorem plain_of_condition? {word : WordPosition}
    (formed : forall term, term ∈ word.terms -> term.WellFormed) {scope : Scope}
    (named : Store.isName scope.wordAlias = true) {alternatives : Disjunction}
    (made : word.condition? scope = some alternatives) :
    Condition.PlainAlternatives alternatives := by
  refine ⟨(condition?_eq_some.mp made).2, ?_, ?_⟩
  · intro conditions among
    rw [(condition?_eq_some.mp made).1] at among
    rcases List.mem_filterMap.mp among with ⟨set, _, asked⟩
    exact (TermSet.condition?_eq_some.mp asked).2
  · intro conditions among condition member
    rcases exists_term_of_mem made among member with ⟨set, within, term, inside, tested⟩
    exact Term.plain_of_condition? (formed term (List.mem_flatMap.mpr ⟨set, within, inside⟩)) named
      tested

theorem readCondition?_predicate {word : WordPosition}
    (formed : forall term, term ∈ word.terms -> term.WellFormed) {scope : Scope}
    (named : Store.isName scope.wordAlias = true) {alternatives : Disjunction}
    (made : word.condition? scope = some alternatives) :
    Store.readCondition? (word.predicate scope) =
      some [[(Clause.constraint alternatives).formula]] := by
  have plain := plain_of_condition? formed named made
  rw [predicate, made]
  exact Store.readCondition?_of_lexes (Condition.lexes_renderAny plain)
    (Condition.proper_alternatives plain)

theorem readsBack {word : WordPosition} (formed : forall term, term ∈ word.terms -> term.WellFormed)
    {scope : Scope} (named : Store.isName scope.wordAlias = true) : word.ReadsBack scope := by
  refine ⟨?_, fun term member => Term.readsBack (formed term member) named⟩
  rw [formulas_eq]
  cases made : word.condition? scope with
  | none =>
      rw [predicate, made]
      rw [condition?] at made
      cases asked : word.sets.filterMap fun set => set.condition? scope with
      | nil => rfl
      | cons first more =>
          rw [asked] at made
          cases made
  | some alternatives =>
      have read := readCondition?_predicate formed named made
      rw [<- (condition?_eq_some.mp made).1]
      cases alternatives with
      | nil => exact absurd rfl (condition?_eq_some.mp made).2
      | cons first more => exact read

end WordPosition

/-! ## Fragments -/

/-- Every term of the phrase is well formed. -/
def Phrase.WellFormed [Pattern.Engine] (phrase : Phrase) : Prop :=
  forall word, word ∈ phrase.words -> forall term, term ∈ word.terms -> term.WellFormed

theorem Phrase.wellFormed_of_parse [Pattern.Engine] {text : String} {query : Query}
    (accepted : Query.parse text = .ok query) {phrase : Phrase} (among : phrase ∈ query.phrases) :
    phrase.WellFormed := by
  intro word within term member
  rcases List.mem_flatMap.mp member with ⟨set, inside, here⟩
  exact (Query.wellFormed_of_parse accepted).1 phrase among word within set inside term here

namespace Compiler

variable {compiler : Compiler} {shape : ResultShape}

theorem isName_scopeAt (index : Nat) :
    Store.isName (compiler.scopeAt shape index).wordAlias = true :=
  isName_wordAlias index

theorem plain_bindings {schema : Schema} (plain : schema.IsPlain) {bound : BoundWord}
    {clause : Clause} (member : clause ∈ bound.bindings schema) : clause.Plain := by
  rcases List.mem_append.mp member with chain | join
  · split at chain
    · cases chain
    · rw [List.mem_singleton.mp chain]
      exact ⟨(path_wordAlias bound.index).1, (path_successor plain bound.index).1⟩
  · split at join
    · rw [List.mem_singleton.mp join]
      exact ⟨(path_partWord bound.index).1, (path_wordAlias bound.index).1⟩
    · cases join

theorem plain_workBindings {clause : Clause} (member : clause ∈ workBindings shape) :
    clause.Plain := by
  unfold workBindings at member
  split at member
  · rcases List.mem_cons.mp member with same | later
    · rw [same]
      exact ⟨by decide +kernel, by decide +kernel⟩
    · rw [List.mem_singleton.mp later]
      exact ⟨by decide +kernel, by decide +kernel⟩
  · cases member

section AnyEngine

variable [Pattern.Engine]

theorem plain_sources (plain : compiler.schema.IsPlain) {phrase : Phrase} {source : Source}
    (member : source ∈ (compiler.selection shape none phrase).sources) :
    Store.isName source.entity = true ∧ Store.isName source.name = true := by
  have work : Store.isName "work" = true := by decide
  have workPart : Store.isName "workPart" = true := by decide
  rcases List.mem_append.mp member with outer | inner
  · unfold workSources at outer
    split at outer
    · rcases List.mem_cons.mp outer with same | later
      · rw [same]
        exact ⟨plain.work, work⟩
      · rw [List.mem_singleton.mp later]
        exact ⟨plain.workPart, workPart⟩
    · cases outer
  · rcases List.mem_flatMap.mp inner with ⟨bound, _, within⟩
    rcases List.mem_cons.mp within with same | later
    · rw [same]
      exact ⟨plain.word, isName_wordAlias bound.index⟩
    · split at later
      · rw [List.mem_singleton.mp later]
        exact ⟨plain.wordPart, isName_partAlias bound.index⟩
      · cases later

theorem plain_selection (plain : compiler.schema.IsPlain) {phrase : Phrase}
    (formed : phrase.WellFormed) : (compiler.selection shape none phrase).Plain := by
  refine ⟨?_, fun source member => plain_sources plain member, ?_⟩
  · rcases compiler.boundWords_eq_cons shape phrase with ⟨rest, words⟩
    change workSources compiler.schema shape ++
      (compiler.boundWords shape phrase).flatMap _ ≠ []
    rw [words]
    exact List.append_ne_nil_of_right_ne_nil _ (List.cons_ne_nil _ _)
  · intro clause member
    rcases List.mem_append.mp member with bindings | constraint
    · rcases List.mem_append.mp bindings with outer | inner
      · exact plain_workBindings outer
      · rcases List.mem_flatMap.mp inner with ⟨bound, _, within⟩
        exact plain_bindings plain within
    · rcases List.mem_flatMap.mp constraint with ⟨bound, among, within⟩
      rcases mem_boundWords.mp among with ⟨index, word, found, same, _⟩
      rcases List.mem_map.mp within with ⟨alternatives, asked, made⟩
      rw [same] at asked
      have condition : word.condition? (compiler.scopeAt shape index) = some alternatives :=
        Option.mem_toList.mp asked
      rw [<- made]
      exact WordPosition.plain_of_condition? (formed word (List.mem_of_getElem? found))
        (isName_scopeAt index) condition

theorem compileFrom_texts (compiler : Compiler) (shape : ResultShape) (filter : Option String)
    (phrases : List Phrase) (index : Nat) :
    (compiler.compileFrom shape filter index phrases).map Fragment.text =
      phrases.map fun phrase => (compiler.selection shape filter phrase).render := by
  induction phrases generalizing index with
  | nil => rfl
  | cons phrase rest ih =>
      rw [compileFrom, List.map_cons, List.map_cons, ih]
      rfl

/-- No text in a query changes how its fragments are read.  The fragment of every
phrase is read as the statement that the phrase was turned into, and every word
position in it as alternatives of its terms' tests, with the terms' texts and the
codes they stand for in the literals. -/
theorem compile_reads_back {text : String} {query : Query} (accepted : Query.parse text = .ok query)
    (plain : compiler.schema.IsPlain) (shape : ResultShape) :
    (compiler.compile query shape none).map (fun fragment => Store.read? fragment.text) =
        query.phrases.map (fun phrase => some (compiler.selection shape none phrase).statement) ∧
      forall phrase, phrase ∈ query.phrases -> forall (index : Nat) (word : WordPosition),
        phrase.words[index]? = some word -> word.ReadsBack (compiler.scopeAt shape index) := by
  constructor
  · have texts := congrArg (List.map Store.read?)
      (compiler.compileFrom_texts shape none query.phrases 0)
    rw [List.map_map, List.map_map] at texts
    refine texts.trans (List.map_congr_left ?_)
    intro phrase among
    exact Selection.read?_render (plain_selection plain (Phrase.wellFormed_of_parse accepted among))
  · intro phrase among index word found
    exact WordPosition.readsBack
      (Phrase.wellFormed_of_parse accepted among word (List.mem_of_getElem? found))
      (isName_scopeAt index)

end AnyEngine

/-- A text that would close its literal and add an alternative, and a code with a
quote in it. -/
theorem compile_reads_back_of_quotes :
    let compiler : Compiler := { tags := .ofList ["v", "n'1"] }
    let query : Query :=
      ⟨⟨⟨⟨⟨.partOfSpeech, "^n", false, true⟩, [⟨.headword, "') or (1 = 1", true, false⟩]⟩,
        [⟨⟨.wordPartCount, ">= -5", false, false⟩, []⟩]⟩, []⟩, []⟩
    Query.parse "pos(\x7b^n\x7d):!lem(\"') or (1 = 1\");wpc(\">= -5\")" = .ok query ∧
      (compiler.compile query .wordId none).map Fragment.text =
        ["select w0.id from Word w0, WordPart wp0 where wp0.word = w0 and " ++
          "((wp0.lemPos.pos.tag IN ('n''1') and " ++
          "wp0.lemPos.lemma.tagInsensitive.string <> ''') or (1 = 1') or (w0.numWordParts >= -5))"] ∧
      (compiler.compile query .wordId none).map (fun fragment => Store.read? fragment.text) =
        query.phrases.map fun phrase => some (compiler.selection .wordId none phrase).statement := by
  intro compiler query
  have read : (Query.parse "pos(\x7b^n\x7d):!lem(\"') or (1 = 1\");wpc(\">= -5\")").toOption =
      some query := by decide +kernel
  have accepted := Query.parse_eq_ok_of_toOption read
  have plain : compiler.schema.IsPlain := by constructor <;> decide +kernel
  exact ⟨accepted, by decide +kernel, (compile_reads_back accepted plain .wordId).1⟩

end Compiler

end CorpusQuery
