import CorpusQuery.Proofs.Selection.Meaning
import CorpusQuery.Proofs.Selection.Reading

namespace CorpusQuery

open Store

/-!
# Verdicts on written conditions

What a term, a term set or a word position asks for reaches the store as a text.
The verdict on a text is the truth of what the store reads in it, once objects
are chosen for the aliases.  The empty text asks for nothing, so the verdict on
it is that it holds.

A text can be read when what it holds without quotes is a number.  This is so for
every term that was read, and for every term built in another way that is not a
literal of a letter table with some other text.

Empty texts are left out on the way from terms to sets and from sets to positions.
In a conjunction this changes nothing, because truth is its unit.  So the verdict
on a set is the conjunction of the verdicts on its terms, empty texts included.
-/

/-! ## Truth values -/

namespace Store.Truth

theorem either_eq_true {one other : Truth} :
    either one other = some true <-> one = some true ∨ other = some true := by
  rcases one with _ | _ | _ <;> rcases other with _ | _ | _ <;> decide

theorem any_eq_true {truths : List Truth} : any truths = some true <-> some true ∈ truths := by
  induction truths with
  | nil => decide
  | cons first rest ih =>
      rw [any, List.foldr_cons, either_eq_true, List.mem_cons, eq_comm]
      exact or_congr_right ih

/-- Truths that are left out of a conjunction may as well be there and hold. -/
theorem all_filterMap {α : Type} (view : α -> Option Truth) (items : List α) :
    all (items.filterMap view) = all (items.map fun item => (view item).getD (some true)) := by
  induction items with
  | nil => rfl
  | cons item rest ih =>
      have step : all ((item :: rest).map fun item => (view item).getD (some true)) =
          ((view item).getD (some true)).both (all (rest.filterMap view)) := by
        rw [ih]
        rfl
      rw [step, List.filterMap_cons]
      cases view item <;> rfl

end Store.Truth

variable {Object : Type} [DecidableEq Object]

/-! ## Verdicts -/

namespace Store.Corpus

variable [Pattern.Engine]

/-- The truth of a written condition, none when it cannot be read. -/
def verdict? (corpus : Corpus Object) (choice : Choice Object) (text : String) : Option Truth :=
  if text.isEmpty then some (some true) else (readCondition? text).map (anyHolds corpus choice)

/-- The written condition can be read, and is known to hold. -/
def Grants (corpus : Corpus Object) (choice : Choice Object) (text : String) : Prop :=
  corpus.verdict? choice text = some (some true)

variable {corpus : Corpus Object} {choice : Choice Object}

theorem verdict?_empty : corpus.verdict? choice "" = some (some true) :=
  rfl

theorem verdict?_of_read {text : String} {formula : Formula}
    (read : readCondition? text = some [[formula]]) :
    corpus.verdict? choice text = some (formula.truth corpus choice) := by
  have nothing : (readCondition? "").isSome = false := by decide +kernel
  have written : text.isEmpty = false := by
    rw [Bool.eq_false_iff]
    intro empty
    rw [<- String.isEmpty_iff.mp empty, read] at nothing
    cases nothing
  rw [verdict?, written, read, Option.map_some, anyHolds_eq, List.map_singleton,
    Truth.any_singleton, allHold_eq, List.map_singleton, Truth.all_singleton]
  rfl

/-- A condition that is written when there is one, and read as a formula. -/
theorem verdict?_written {α : Type} {condition? : Option α} {render : α -> String}
    {formula : α -> Formula} (read : forall condition, condition? = some condition ->
      readCondition? (render condition) = some [[formula condition]]) :
    corpus.verdict? choice ((condition?.map render).getD "") =
      some ((condition?.map fun condition => (formula condition).truth corpus choice).getD
        (some true)) := by
  cases condition? with
  | none => exact verdict?_empty
  | some condition => exact verdict?_of_read (read condition rfl)

/-- A word with one part. -/
def single (spelling tag : String) : Corpus Nat where
  extent entity := ([("Word", [0]), ("WordPart", [1])].lookup entity).getD []
  property target name :=
    (([(0, [("spellingInsensitive", .object 2)]), (1, [("word", .object 0), ("lemPos", .object 3)]),
        (2, [("string", .text spelling)]), (3, [("pos", .object 4)]),
        (4, [("tag", .text tag)])].lookup target).bind (List.lookup name)).getD .null

end Store.Corpus

/-! ## What the reader returns -/

theorem WordPosition.mem_terms {word : WordPosition} {set : TermSet} {term : Term}
    (member : set ∈ word.sets) (inside : term ∈ set.terms) : term ∈ word.terms :=
  List.mem_flatMap.mpr ⟨set, member, inside⟩

section AnyEngine

variable [Pattern.Engine]

/-- The reader returned the position by itself, wherever it stood, or as part of a
query. -/
inductive WordPosition.Returned (word : WordPosition) : Prop where
  | alone {scanner after : Scanner} (read : Parser.wordPosition.runOn scanner = (.ok word, after))
  | inside {text : String} {query : Query} {phrase : Phrase}
      (accepted : Query.parse text = .ok query) (among : phrase ∈ query.phrases)
      (member : word ∈ phrase.words)

inductive TermSet.Returned (set : TermSet) : Prop where
  | alone {scanner after : Scanner} (read : Parser.termSet.runOn scanner = (.ok set, after))
  | inside {word : WordPosition} (returned : word.Returned) (member : set ∈ word.sets)

theorem Grammar.wellFormed_of_oneSet {tokens : List Token} {terms : List Term}
    (derived : Grammar.OneSet tokens terms) : forall term, term ∈ terms -> term.WellFormed :=
  Separated.forall_mem (fun _ _ oneTerm => wellFormed_of_oneTerm oneTerm) derived

theorem WordPosition.Returned.wellFormed {word : WordPosition} (returned : word.Returned) :
    forall term, term ∈ word.terms -> term.WellFormed := by
  cases returned with
  | inside accepted among member => exact Phrase.wellFormed_of_parse accepted among word member
  | alone read =>
      rcases Parser.wordPosition_sound read with ⟨_, _, sets, derived, same⟩
      have formed : forall terms, terms ∈ sets -> forall term, term ∈ terms -> term.WellFormed :=
        Grammar.Separated.forall_mem (fun _ _ oneSet => Grammar.wellFormed_of_oneSet oneSet) derived
      intro term member
      rcases List.mem_flatMap.mp member with ⟨set, among, inside⟩
      have listed : set.terms ∈ word.tree := List.mem_map_of_mem among
      rw [same] at listed
      rcases List.mem_map.mp (List.mem_eraseDups.mp listed) with ⟨terms, within, collapsed⟩
      rw [<- collapsed] at inside
      exact formed terms within term (List.mem_eraseDups.mp inside)

theorem TermSet.Returned.wellFormed {set : TermSet} (returned : set.Returned) :
    forall term, term ∈ set.terms -> term.WellFormed := by
  cases returned with
  | inside within member =>
      exact fun term inside => within.wellFormed term (WordPosition.mem_terms member inside)
  | alone read =>
      rcases Parser.termSet_sound read with ⟨_, _, terms, derived, same⟩
      intro term member
      rw [same] at member
      exact Grammar.wellFormed_of_oneSet derived term (List.mem_eraseDups.mp member)

end AnyEngine

/-! ## Terms that can be read -/

namespace Term

/-- What the term writes without quotes is a number. -/
def Legible (term : Term) : Prop :=
  forall table, term.attr.domain = .categorical table -> term.isPattern = false ->
    Exists fun code => term.text = Nat.repr code

theorem plain_negateIf {condition : Condition} (plain : condition.Plain) (negated : Bool) :
    (Condition.negateIf negated condition).Plain := by
  cases negated with
  | false => exact plain
  | true => exact plain

theorem plain_storeMatch (term : Term) {field : String} (path : isPath field = true) :
    (term.storeMatch field).Plain := by
  refine plain_negateIf ?_ term.negated
  exact path

theorem plain_comparison (term : Term) {field : String} (path : isPath field = true) :
    (term.comparison field).Plain := by
  refine plain_negateIf ?_ term.negated
  split
  · exact ⟨path, trivial⟩
  · exact ⟨path, trivial⟩

variable [Pattern.Engine]

theorem WellFormed.legible {term : Term} (formed : term.WellFormed) : term.Legible := by
  intro table domain literal
  rw [WellFormed, domain] at formed
  simp only [literal] at formed
  rcases formed with ⟨entry, _, coded⟩
  exact ⟨entry.code, coded⟩

theorem plain_membership {term : Term} {field : String} (path : isPath field = true)
    {codes : List String} {operand : String -> Operand}
    (each : forall code, code ∈ codes -> (operand code).Plain) {condition : Condition}
    (made : term.membership field codes operand = some condition) : condition.Plain := by
  unfold membership at made
  split at made
  next =>
    cases made
    exact plain_storeMatch term path
  next =>
    split at made
    · cases made
    · cases made
      trivial
  next found filled tried =>
    cases made
    refine ⟨path, fun none => filled (List.map_eq_nil_iff.mp none), ?_⟩
    intro operand' member
    rcases List.mem_map.mp member with ⟨code, among, rfl⟩
    rcases Option.map_eq_some_iff.mp tried with ⟨pattern, _, rfl⟩
    exact each code (List.mem_of_mem_filter among)

theorem plain_of_presence {term : Term} {field : String} (path : isPath field = true)
    {codes : List Nat} {condition : Condition}
    (made : term.presence field codes = some condition) : condition.Plain := by
  rcases presence_cases made with never | ⟨expected, present⟩
  · rw [never]
    trivial
  · rw [present]
    exact path

/-- Whatever a legible term asks for can be read, in whichever way it was built. -/
theorem plain_of_legible {term : Term} (legible : term.Legible) {scope : Scope}
    (named : isName scope.wordAlias = true) {condition : Condition}
    (made : term.condition? scope = some condition) : condition.Plain := by
  have path := (scope.dotted_field named term.attr).1
  rw [condition?] at made
  split at made
  · cases made
  · unfold conditionOn at made
    cases domain : term.attr.domain with
    | numeric =>
        rw [domain] at made
        cases made
        exact plain_comparison term path
    | presence table =>
        rw [domain] at made
        exact plain_of_presence path made
    | categorical table =>
        rw [domain] at made
        cases literal : term.isPattern <;> simp only [literal] at made
        · cases made
          exact ⟨path, legible table domain literal⟩
        · refine plain_membership path ?_ made
          intro code member
          rcases List.mem_map.mp member with ⟨entry, _, rfl⟩
          exact ⟨entry.code, rfl⟩
    | externalCodes =>
        rw [domain] at made
        cases literal : term.isPattern <;> simp only [literal] at made
        · cases made
          exact ⟨path, trivial⟩
        · cases untried : scope.tags.isEmpty <;> simp only [untried] at made
          · have literals : forall code, code ∈ scope.tags.codes -> (Operand.literal code).Plain :=
              fun _ _ => trivial
            exact plain_membership path literals made
          · cases made
            exact plain_storeMatch term path
    | text =>
        rw [domain] at made
        cases literal : term.isPattern <;> simp only [literal] at made
        · cases made
          exact ⟨path, trivial⟩
        · cases made
          exact plain_storeMatch term path

end Term

/-! ## Verdicts on terms and sets -/

/-- The data of the fields at a word position. -/
def Scope.data (scope : Scope) (corpus : Corpus Object) (choice : Choice Object)
    (attr : Attribute) : Datum Object :=
  corpus.reach choice (scope.path attr)

variable [Pattern.Engine]

/-- A term of a set that asks for nothing counts as one that holds. -/
theorem TermSet.test_getD (set : TermSet) (tags : TagSet) (data : Attribute -> Datum Object) :
    (set.test tags data).getD (some true) =
      Truth.all (set.terms.map fun term => (term.test tags data).getD (some true)) := by
  rw [<- Truth.all_filterMap, test]
  cases set.terms.filterMap fun term => term.test tags data <;> rfl

section Levels

variable {scope : Scope} (named : isName scope.wordAlias = true) (corpus : Corpus Object)
  (choice : Choice Object)

include named

theorem Term.verdict?_predicate {term : Term} (legible : term.Legible) :
    corpus.verdict? choice (term.predicate scope) =
      some ((term.test scope.tags (scope.data corpus choice)).getD (some true)) := by
  have read : forall condition, term.condition? scope = some condition ->
      readCondition? condition.render = some [[condition.formula]] := by
    intro condition made
    have plain := plain_of_legible legible named made
    exact readCondition?_of_lexes (Condition.lexes plain) (Condition.proper plain)
  rw [predicate, Corpus.verdict?_written read, term.truth_condition? named]
  rfl

namespace TermSet

variable {set : TermSet}

theorem verdict?_predicate (legible : forall term, term ∈ set.terms -> term.Legible) :
    corpus.verdict? choice (set.predicate scope) =
      some ((set.test scope.tags (scope.data corpus choice)).getD (some true)) := by
  have read : forall conditions, set.condition? scope = some conditions ->
      readCondition? (Condition.renderAll conditions) =
        some [[.every (conditions.map Condition.formula)]] := by
    intro conditions made
    rcases condition?_eq_some.mp made with ⟨same, filled⟩
    have plain : forall condition, condition ∈ conditions -> condition.Plain := by
      intro condition member
      rw [same] at member
      rcases List.mem_filterMap.mp member with ⟨term, among, asked⟩
      exact Term.plain_of_legible (legible term among) named asked
    refine readCondition?_of_lexes (Condition.lexes_renderAll plain) (Formula.proper_every ?_ ?_)
    · exact fun none => filled (List.map_eq_nil_iff.mp none)
    · refine List.forall_mem_map.mpr fun condition member => ?_
      exact Condition.proper (plain condition member)
  rw [predicate, Corpus.verdict?_written read]
  simp only [Formula.truth_every]
  rw [set.truth_condition? named]
  rfl

/-- A set is granted when all its terms are. -/
theorem grants_iff (legible : forall term, term ∈ set.terms -> term.Legible) :
    corpus.Grants choice (set.predicate scope) <->
      forall term, term ∈ set.terms -> corpus.Grants choice (term.predicate scope) := by
  unfold Corpus.Grants
  rw [verdict?_predicate named corpus choice legible, Option.some_inj, set.test_getD,
    Truth.all_eq_true, List.forall_mem_map]
  refine forall₂_congr fun term member => ?_
  rw [Term.verdict?_predicate named corpus choice (legible term member), Option.some_inj]

end TermSet

end Levels

end CorpusQuery
