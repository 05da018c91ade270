import CorpusQuery.Pattern.Standard
import CorpusQuery.Proofs.Selection.Aliases
import CorpusQuery.Proofs.Selection.Meaning

namespace CorpusQuery

open Store

/-!
# Shapes select the same matches

The four shapes of a phrase return different things about the same words.  The
two distinct shapes draw from works and work parts as well, tie them to the first
word, and let its tests start from them.  Where every word has its work and its
work part, each match of the other shapes is completed to a match of these in
exactly one way, and every path of a test leads to the same datum in both.

Which positions take part, what they draw from and how they hang together is the
same for all shapes, because a shape decides nothing but where fields are.
-/

/-! ## Positions that take part -/

section AnyEngine

variable [Pattern.Engine]

theorem TermSet.condition?_eq_none {set : TermSet} {scope : Scope} :
    set.condition? scope = none <->
      forall term, term ∈ set.terms -> term.question? scope.tags = none := by
  have nothing : set.condition? scope = none <->
      (set.terms.filterMap fun term => term.condition? scope) = [] := by
    rw [condition?]
    cases set.terms.filterMap fun term => term.condition? scope <;> simp
  rw [nothing, List.filterMap_eq_nil_iff]
  refine forall₂_congr fun term _ => ?_
  rw [term.condition?_eq, Option.map_eq_none_iff]

theorem WordPosition.condition?_eq_none {word : WordPosition} {scope : Scope} :
    word.condition? scope = none <->
      forall set, set ∈ word.sets -> forall term, term ∈ set.terms ->
        term.question? scope.tags = none := by
  have nothing : word.condition? scope = none <->
      (word.sets.filterMap fun set => set.condition? scope) = [] := by
    rw [condition?]
    cases word.sets.filterMap fun set => set.condition? scope <;> simp
  rw [nothing, List.filterMap_eq_nil_iff]
  exact forall₂_congr fun set _ => TermSet.condition?_eq_none

namespace Compiler

variable {compiler : Compiler}

/-- Whether a position is left out does not depend on the shape. -/
theorem isIdle_boundAt (shape other : ResultShape) (index : Nat) (word : WordPosition) :
    (compiler.boundAt shape index word).isIdle = (compiler.boundAt other index word).isIdle := by
  have same : (word.condition? (compiler.scopeAt shape index)).isNone =
      (word.condition? (compiler.scopeAt other index)).isNone := by
    rw [Bool.eq_iff_iff, Option.isNone_iff_eq_none, Option.isNone_iff_eq_none,
      WordPosition.condition?_eq_none, WordPosition.condition?_eq_none]
    rfl
  simp only [BoundWord.isIdle, boundAt, same]

/-- What a position draws from and how it is tied to the first one is the same for
all shapes. -/
theorem sources_boundAt (shape other : ResultShape) (index : Nat) (word : WordPosition) :
    (compiler.boundAt shape index word).sources compiler.schema =
        (compiler.boundAt other index word).sources compiler.schema ∧
      (compiler.boundAt shape index word).bindings compiler.schema =
        (compiler.boundAt other index word).bindings compiler.schema := by
  unfold BoundWord.sources BoundWord.bindings boundAt
  exact ⟨rfl, rfl⟩

theorem wordSources_eq (shape other : ResultShape) (phrase : Phrase) :
    (compiler.boundWords shape phrase).flatMap (BoundWord.sources compiler.schema) =
      (compiler.boundWords other phrase).flatMap (BoundWord.sources compiler.schema) := by
  unfold boundWords
  generalize 0 = start
  induction phrase.words generalizing start with
  | nil => rfl
  | cons word rest ih =>
      have step : forall shape, compiler.wordsFrom shape start (word :: rest) =
          compiler.boundAt shape start word :: compiler.wordsFrom shape (start + 1) rest :=
        fun _ => rfl
      rw [step, step, List.filter_cons, List.filter_cons, isIdle_boundAt shape other]
      split
      · rw [List.flatMap_cons, List.flatMap_cons, ih, (sources_boundAt shape other start word).1]
      · exact ih (start + 1)

end Compiler

/-! ## Clauses that hold -/

section Holds

variable {Object : Type} [DecidableEq Object]

def Clause.Holds (corpus : Corpus Object) (choice : Choice Object) (clause : Clause) : Prop :=
  clause.formula.truth corpus choice = some true

theorem Clause.holds_binding {corpus : Corpus Object} {choice : Choice Object}
    {left right : String} :
    (Clause.binding left right).Holds corpus choice <->
      (corpus.reach choice (dotted left)).compare .equal (corpus.reach choice (dotted right)) =
        some true := by
  rw [Holds, formula, Formula.truth]
  rfl

theorem Selection.holds_alternatives {corpus : Corpus Object} {choice : Choice Object}
    {selection : Selection} :
    anyHolds corpus choice selection.statement.alternatives = some true <->
      forall clause, clause ∈ selection.clauses -> clause.Holds corpus choice := by
  change anyHolds corpus choice [selection.clauses.map Clause.formula] = some true <-> _
  rw [anyHolds_eq, List.map_singleton, Truth.any_singleton, allHold_eq, Truth.all_eq_true,
    List.map_map, List.forall_mem_map]
  rfl

namespace Compiler

variable {compiler : Compiler} {shape : ResultShape} {corpus : Corpus Object}
  {choice : Choice Object}

/-- The data of a position's fields. -/
def dataAt (compiler : Compiler) (shape : ResultShape) (corpus : Corpus Object)
    (choice : Choice Object) (index : Nat) (attr : Attribute) : Datum Object :=
  corpus.reach choice ((compiler.scopeAt shape index).path attr)

/-- A position is tied to the first one, its part is tied to it, and what it asks
for holds, if it asks for anything. -/
def PositionHolds (compiler : Compiler) (shape : ResultShape) (corpus : Corpus Object)
    (choice : Choice Object) (index : Nat) (word : WordPosition) : Prop :=
  (forall clause, clause ∈ (compiler.boundAt shape index word).bindings compiler.schema ->
    clause.Holds corpus choice) ∧
  (word.test compiler.tags (compiler.dataAt shape corpus choice index)).getD (some true) = some true

theorem holds_constraints {index : Nat} {word : WordPosition} :
    (forall clause, clause ∈ (compiler.boundAt shape index word).constraints ->
      clause.Holds corpus choice) <->
      (word.test compiler.tags (compiler.dataAt shape corpus choice index)).getD (some true) =
        some true := by
  have named : isName (compiler.scopeAt shape index).wordAlias = true := isName_scopeAt index
  have meaning := word.truth_condition? named corpus choice
  change _ = word.test compiler.tags (compiler.dataAt shape corpus choice index) at meaning
  rw [<- meaning]
  change (forall clause, clause ∈ (word.condition? (compiler.scopeAt shape index)).toList.map
    Clause.constraint -> _) <-> _
  cases word.condition? (compiler.scopeAt shape index) with
  | none => simp
  | some alternatives => simp [Clause.Holds]

/-- A choice satisfies a selection when the works are tied to the first word and
every position that takes part holds. -/
theorem holds_selection {phrase : Phrase} :
    anyHolds corpus choice (compiler.selection shape none phrase).statement.alternatives =
        some true <->
      (forall clause, clause ∈ workBindings shape -> clause.Holds corpus choice) ∧
        forall (index : Nat) (word : WordPosition), phrase.words[index]? = some word ->
          (compiler.boundAt shape index word).isIdle = false ->
            compiler.PositionHolds shape corpus choice index word := by
  have clauses : (compiler.selection shape none phrase).clauses = workBindings shape ++
      (compiler.boundWords shape phrase).flatMap (BoundWord.bindings compiler.schema) ++
        (compiler.boundWords shape phrase).flatMap BoundWord.constraints := rfl
  rw [Selection.holds_alternatives, clauses]
  constructor
  · intro holds
    refine ⟨fun clause member => holds clause ?_, fun index word found busy => ?_⟩
    · exact List.mem_append_left _ (List.mem_append_left _ member)
    · have among := mem_boundWords.mpr ⟨index, word, found, rfl, busy⟩
      refine ⟨fun clause member => holds clause ?_, holds_constraints.mp fun clause member =>
        holds clause ?_⟩
      · exact List.mem_append_left _ (List.mem_append_right _
          (List.mem_flatMap.mpr ⟨_, among, member⟩))
      · exact List.mem_append_right _ (List.mem_flatMap.mpr ⟨_, among, member⟩)
  · rintro ⟨works, positions⟩ clause member
    rcases List.mem_append.mp member with bindings | constraint
    · rcases List.mem_append.mp bindings with outer | inner
      · exact works clause outer
      · rcases List.mem_flatMap.mp inner with ⟨bound, among, within⟩
        rcases mem_boundWords.mp among with ⟨index, word, found, rfl, busy⟩
        exact (positions index word found busy).1 clause within
    · rcases List.mem_flatMap.mp constraint with ⟨bound, among, within⟩
      rcases mem_boundWords.mp among with ⟨index, word, found, rfl, busy⟩
      exact holds_constraints.mpr (positions index word found busy).2 clause within

end Compiler

end Holds

end AnyEngine

/-! ## Works bound by name -/

section Works

variable {Object : Type}

/-- The word belongs to the work and to the part of it. -/
structure Store.Corpus.Locates (corpus : Corpus Object) (word work part : Object) : Prop where
  work : corpus.property word "work" = .object work
  workPart : corpus.property word "workPart" = .object part

/-- Each word has one work and one work part. -/
def Store.Corpus.Placed (corpus : Corpus Object) (schema : Schema) : Prop :=
  forall word, word ∈ corpus.extent schema.word ->
    Exists fun work => work ∈ corpus.extent schema.work ∧
      Exists fun part => part ∈ corpus.extent schema.workPart ∧ corpus.Locates word work part

/-- A choice completed by a work and a work part. -/
def Store.Choice.within (work part : Object) (choice : Choice Object) : Choice Object :=
  ("work", work) :: ("workPart", part) :: choice

theorem wordAlias_zero : wordAlias 0 = "w0" := by
  decide +kernel

theorem ne_workNames (index : Nat) :
    (wordAlias index ≠ "work" ∧ wordAlias index ≠ "workPart") ∧
      partAlias index ≠ "work" ∧ partAlias index ≠ "workPart" := by
  have work : "work" ∈ ResultShape.distinctWork.workNames := by decide
  have workPart : "workPart" ∈ ResultShape.distinctWork.workNames := by decide
  exact ⟨⟨(alias_ne_workNames work index).1, (alias_ne_workNames workPart index).1⟩,
    (alias_ne_workNames work index).2, (alias_ne_workNames workPart index).2⟩

/-- The way to a later word starts from the first one, whatever the successor is
called. -/
theorem dotted_successor (successor : String) (count : Nat) :
    Exists fun steps =>
      dotted ("w0" ++ Text.repeated ("." ++ successor) count) = "w0" :: steps := by
  cases count with
  | zero =>
      rw [Text.repeated]
      exact ⟨[], by decide +kernel⟩
  | succ count =>
      have chars : "w0".toList = ['w', '0'] := by decide
      have dot : ".".toList = ['.'] := by decide
      refine ⟨dotted (successor ++ Text.repeated ("." ++ successor) count), ?_⟩
      rw [dotted, dotted, Text.repeated, String.toList_append, String.toList_append,
        String.toList_append, String.toList_append, chars, dot]
      simp [List.splitOn, List.splitOnP_cons_eq_if_modifyHead]

namespace Compiler

variable {compiler : Compiler} {shape : ResultShape} {corpus : Corpus Object}
  {choice : Choice Object} {word work part : Object}

/-- Paths from other aliases lead where they led before. -/
theorem reach_within {name : String} (other : name ≠ "work" ∧ name ≠ "workPart")
    (rest : List String) :
    corpus.reach (choice.within work part) (name :: rest) = corpus.reach choice (name :: rest) := by
  have same : (choice.within work part).lookup name = choice.lookup name := by
    rw [Store.Choice.within, List.lookup_cons, List.lookup_cons, beq_false_of_ne other.1,
      beq_false_of_ne other.2]
  simp only [Corpus.reach, same]

theorem reach_cons {name : String} {target : Object} (bound : choice.lookup name = some target)
    (rest : List String) :
    corpus.reach choice (name :: rest) = corpus.follow (.object target) rest := by
  simp only [Corpus.reach, bound]

/-- A property of the first word's work is found from the word or from the work. -/
theorem reach_work {name : String} {owner : Object}
    (first : choice.lookup "w0" = some word) (belongs : corpus.property word name = .object owner)
    (bound : (choice.within work part).lookup name = some owner) (binds : shape.bindsWork = true)
    (index : Nat) (steps : List String) :
    corpus.reach (choice.within work part) ((compiler.scopeAt shape index).reach name ++ steps) =
      corpus.reach choice ((compiler.scopeAt .fullWord index).reach name ++ steps) := by
  have through : (compiler.scopeAt .fullWord index).reach name = [wordAlias index, name] := rfl
  -- Only the first position starts from the bound work, later ones reach their own.
  cases index with
  | zero =>
      have named : (compiler.scopeAt shape 0).reach name = [name] := by
        simp [Scope.reach, scopeAt, ResultShape.workAccess, binds]
      rw [named, through, wordAlias_zero, List.singleton_append, reach_cons bound, List.cons_append,
        reach_cons first, List.singleton_append, Corpus.follow, belongs]
  | succ index =>
      have same : (compiler.scopeAt shape (index + 1)).reach name =
          [wordAlias (index + 1), name] := by
        simp [Scope.reach, scopeAt, ResultShape.workAccess]
      rw [same, through]
      exact reach_within (ne_workNames (index + 1)).1 _

/-- Every field of a position leads to the same datum, whether the works are bound
by name or not. -/
theorem dataAt_within (located : corpus.Locates word work part)
    (first : choice.lookup "w0" = some word) (binds : shape.bindsWork = true) (index : Nat) :
    compiler.dataAt shape corpus (choice.within work part) index =
      compiler.dataAt .fullWord corpus choice index := by
  funext attr
  rw [dataAt, dataAt, Scope.path, Scope.path]
  cases attr.entity with
  | word => exact reach_within (ne_workNames index).1 _
  | wordPart => exact reach_within (ne_workNames index).2 _
  | work => exact reach_work first located.work rfl binds index _
  | workPart => exact reach_work first located.workPart rfl binds index _

theorem map_eq_map_filterMap {α β γ : Type} {view : α -> Option β} {shown : α -> γ} {kept : β -> γ}
    {items : List α} (each : forall item, item ∈ items ->
      Exists fun part => view item = some part ∧ shown item = kept part) :
    items.map shown = (items.filterMap view).map kept := by
  induction items with
  | nil => rfl
  | cons item rest ih =>
      rcases each item List.mem_cons_self with ⟨part, found, same⟩
      rw [List.map_cons, List.filterMap_cons, found, List.map_cons, same,
        ih fun other among => each other (List.mem_cons_of_mem item among)]

section AnyEngine

variable [Pattern.Engine]

/-- The first source is the first word. -/
theorem exists_first {phrase : Phrase}
    (among : choice ∈ corpus.choices
      ((compiler.boundWords .fullWord phrase).flatMap (BoundWord.sources compiler.schema))) :
    Exists fun word => word ∈ corpus.extent compiler.schema.word ∧
      choice.lookup "w0" = some word := by
  rcases compiler.boundWords_eq_cons .fullWord phrase with ⟨rest, words⟩
  rw [words, List.flatMap_cons, BoundWord.sources, List.cons_append] at among
  rcases Corpus.mem_choices_cons.mp among with ⟨word, ofEntity, others, _, rfl⟩
  refine ⟨word, ofEntity, ?_⟩
  change List.lookup "w0" ((wordAlias 0, word) :: others) = some word
  rw [wordAlias_zero, List.lookup_cons_self]

variable [DecidableEq Object]

/-- How words hang together does not involve the works. -/
theorem holds_bindings_within {schema : Schema} {bound : BoundWord} {clause : Clause}
    (member : clause ∈ bound.bindings schema) :
    clause.Holds corpus (choice.within work part) <-> clause.Holds corpus choice := by
  have own := (ne_workNames bound.index).1
  have first := (ne_workNames 0).1
  rw [wordAlias_zero] at first
  rcases List.mem_append.mp member with chain | join
  · split at chain
    · cases chain
    · rcases dotted_successor schema.successor bound.index with ⟨steps, path⟩
      rw [List.mem_singleton.mp chain, Clause.holds_binding, Clause.holds_binding,
        (path_wordAlias bound.index).2, path, reach_within own, reach_within first]
  · split at join
    · rw [List.mem_singleton.mp join, Clause.holds_binding, Clause.holds_binding,
        (path_wordAlias bound.index).2, (path_partWord bound.index).2, reach_within own,
        reach_within (ne_workNames bound.index).2]
    · cases join

/-- The clauses that tie the works to the first word. -/
theorem holds_workBindings (first : choice.lookup "w0" = some word)
    (binds : shape.bindsWork = true) :
    (forall clause, clause ∈ workBindings shape ->
      clause.Holds corpus (choice.within work part)) <-> corpus.Locates word work part := by
  have apart := (ne_workNames 0).1
  rw [wordAlias_zero] at apart
  have tied : forall {left name : String} {owner : Object}, dotted left = ["w0", name] ->
      dotted name = [name] -> (choice.within work part).lookup name = some owner ->
        ((Clause.binding left name).Holds corpus (choice.within work part) <->
          corpus.property word name = .object owner) := by
    intro left name owner path single bound
    rw [Clause.holds_binding, path, single, reach_within apart, reach_cons first, reach_cons bound,
      Corpus.follow, Corpus.follow, Corpus.follow, Datum.compare_equal_object]
  rw [workBindings, if_pos binds, List.forall_mem_cons, List.forall_mem_singleton,
    tied (by decide +kernel) (by decide +kernel) rfl,
    tied (by decide +kernel) (by decide +kernel) rfl]
  exact ⟨fun both => ⟨both.1, both.2⟩, fun located => ⟨located.work, located.workPart⟩⟩

/-- A choice with works satisfies a distinct shape exactly when the works are those
of the first word and the rest satisfies the shapes without works. -/
theorem holds_within {phrase : Phrase} (first : choice.lookup "w0" = some word)
    (binds : shape.bindsWork = true) :
    anyHolds corpus (choice.within work part)
        (compiler.selection shape none phrase).statement.alternatives = some true <->
      corpus.Locates word work part ∧
        anyHolds corpus choice
          (compiler.selection .fullWord none phrase).statement.alternatives = some true := by
  rw [holds_selection, holds_selection, holds_workBindings first binds]
  refine and_congr_right fun located => ?_
  have unbound : forall clause, clause ∈ workBindings .fullWord -> clause.Holds corpus choice :=
    fun clause impossible => absurd impossible List.not_mem_nil
  refine Iff.trans ?_ (and_iff_right unbound).symm
  -- The same positions take part, so they can be compared one by one.
  refine forall₂_congr fun index position => imp_congr_right fun _ => ?_
  rw [isIdle_boundAt shape .fullWord]
  refine imp_congr_right fun _ => ?_
  rw [PositionHolds, PositionHolds, (sources_boundAt shape .fullWord index position).2,
    dataAt_within located first binds]
  exact and_congr_left fun _ => forall₂_congr fun clause member => holds_bindings_within member

/-! ## Rows -/

/-- The words that a phrase matches, one for each choice that satisfies it. -/
def matchedWords (compiler : Compiler) (corpus : Corpus Object) (phrase : Phrase) : List Object :=
  (corpus.kept (compiler.selection .fullWord none phrase).statement).filterMap fun choice =>
    choice.lookup "w0"

theorem mem_kept {phrase : Phrase} :
    choice ∈ corpus.kept (compiler.selection shape none phrase).statement <->
      choice ∈ corpus.choices (workSources compiler.schema shape ++
          (compiler.boundWords .fullWord phrase).flatMap (BoundWord.sources compiler.schema)) ∧
        anyHolds corpus choice
          (compiler.selection shape none phrase).statement.alternatives = some true := by
  rw [Corpus.kept, List.mem_filter, decide_eq_true_eq, <- wordSources_eq shape .fullWord]
  rfl

theorem mem_kept_within {phrase : Phrase} (binds : shape.bindsWork = true) :
    choice ∈ corpus.kept (compiler.selection shape none phrase).statement <->
      Exists fun work => work ∈ corpus.extent compiler.schema.work ∧
        Exists fun part => part ∈ corpus.extent compiler.schema.workPart ∧
          Exists fun inner =>
            inner ∈ corpus.kept (compiler.selection .fullWord none phrase).statement ∧
              (Exists fun word => inner.lookup "w0" = some word ∧ corpus.Locates word work part) ∧
                choice = inner.within work part := by
  rw [mem_kept, workSources, if_pos binds, List.cons_append, List.cons_append, List.nil_append]
  constructor
  · rintro ⟨among, holds⟩
    rcases Corpus.mem_choices_cons.mp among with ⟨work, ofWorks, others, later, rfl⟩
    rcases Corpus.mem_choices_cons.mp later with ⟨part, ofParts, inner, within, rfl⟩
    rcases exists_first within with ⟨word, _, first⟩
    rcases (holds_within first binds).mp holds with ⟨located, rest⟩
    exact ⟨work, ofWorks, part, ofParts, inner, mem_kept.mpr ⟨within, rest⟩, ⟨word, first, located⟩,
      rfl⟩
  · rintro ⟨work, ofWorks, part, ofParts, inner, keeps, ⟨word, first, located⟩, rfl⟩
    rcases mem_kept.mp keeps with ⟨within, holds⟩
    exact ⟨Corpus.mem_choices_cons.mpr ⟨work, ofWorks, _,
      Corpus.mem_choices_cons.mpr ⟨part, ofParts, inner, within, rfl⟩, rfl⟩,
      (holds_within first binds).mpr ⟨located, holds⟩⟩

/-- A distinct shape returns each work, or each work part, of the matched words
once. -/
theorem rows_distinct {phrase : Phrase} {name : String} (placed : corpus.Placed compiler.schema)
    (binds : shape.bindsWork = true) (result : shape.result = [name])
    (named : forall {choice : Choice Object} {word work part : Object},
      corpus.Locates word work part ->
        corpus.reach (choice.within work part) [name] = corpus.property word name) :
    (corpus.rows (compiler.selection shape none phrase).statement).Nodup ∧
      forall datum, datum ∈ corpus.rows (compiler.selection shape none phrase).statement <->
        Exists fun word => word ∈ compiler.matchedWords corpus phrase ∧
          corpus.property word name = datum := by
  have rows : corpus.rows (compiler.selection shape none phrase).statement =
      ((corpus.kept (compiler.selection shape none phrase).statement).map fun choice =>
        corpus.reach choice [name]).dedup := by
    rw [Corpus.rows, <- result]
    exact if_pos binds
  rw [rows]
  refine ⟨List.nodup_dedup _, fun datum => ?_⟩
  rw [List.mem_dedup, List.mem_map]
  constructor
  · rintro ⟨choice, keeps, shown⟩
    rcases (mem_kept_within binds).mp keeps with
      ⟨work, _, part, _, inner, within, ⟨word, first, located⟩, rfl⟩
    exact ⟨word, List.mem_filterMap.mpr ⟨inner, within, first⟩, (named located).symm.trans shown⟩
  · rintro ⟨word, among, shown⟩
    rcases List.mem_filterMap.mp among with ⟨inner, within, first⟩
    rcases exists_first (mem_kept.mp within).1 with ⟨word', ofEntity, same⟩
    rw [first] at same
    cases same
    rcases placed word ofEntity with ⟨work, ofWorks, part, ofParts, located⟩
    exact ⟨inner.within work part, (mem_kept_within binds).mpr
      ⟨work, ofWorks, part, ofParts, inner, within, ⟨word, first, located⟩, rfl⟩,
      (named located).trans shown⟩

theorem boundWords_unbound (unbound : shape.bindsWork = false) (phrase : Phrase) :
    compiler.boundWords shape phrase = compiler.boundWords .fullWord phrase := by
  have scopes : compiler.scopeAt shape = compiler.scopeAt .fullWord := by
    funext index
    have through : shape.workAccess index = .throughWord := by
      rw [ResultShape.workAccess, unbound]
      rfl
    rw [scopeAt, through]
    rfl
  have positions : forall (words : List WordPosition) (start : Nat),
      compiler.wordsFrom shape start words = compiler.wordsFrom .fullWord start words := by
    intro words
    induction words with
    | nil => exact fun start => rfl
    | cons word rest ih =>
        intro start
        rw [wordsFrom, wordsFrom, scopes, ih]
  rw [boundWords, boundWords, positions]

/-- The shapes without works return something about each matched word in turn. -/
theorem rows_unbound {phrase : Phrase} {steps : List String} (unbound : shape.bindsWork = false)
    (result : shape.result = "w0" :: steps) :
    corpus.rows (compiler.selection shape none phrase).statement =
      (compiler.matchedWords corpus phrase).map fun word => corpus.follow (.object word) steps := by
  have sources : (compiler.selection shape none phrase).statement.sources =
      (compiler.selection .fullWord none phrase).statement.sources := by
    simp only [Selection.statement, selection, workSources, unbound, boundWords_unbound unbound]
    rfl
  have alternatives : (compiler.selection shape none phrase).statement.alternatives =
      (compiler.selection .fullWord none phrase).statement.alternatives := by
    simp only [Selection.statement, selection, workBindings, unbound, boundWords_unbound unbound]
    rfl
  have rows : corpus.rows (compiler.selection shape none phrase).statement =
      (corpus.kept (compiler.selection .fullWord none phrase).statement).map fun choice =>
        corpus.reach choice ("w0" :: steps) := by
    rw [Corpus.rows, Corpus.kept, sources, alternatives, <- result]
    exact if_neg (ne_true_of_eq_false unbound)
  rw [rows, matchedWords]
  refine map_eq_map_filterMap fun choice keeps => ?_
  rcases exists_first (mem_kept.mp keeps).1 with ⟨word, _, found⟩
  exact ⟨word, found, reach_cons found steps⟩

/-- The four shapes select the same matches.  In every corpus in which each word
has one work and one work part, the words returned in full, their identifiers row
by row, and their works and work parts, each once, are what the shapes return.
The statements evaluated are what the fragments of a phrase are read as, provided
that the names of the schema are plain. -/
theorem shapes_agree {text : String} {query : Query} (accepted : Query.parse text = .ok query)
    {phrase : Phrase} (among : phrase ∈ query.phrases) {corpus : Corpus Object}
    (placed : corpus.Placed compiler.schema) :
    let rows (shape : ResultShape) := corpus.rows (compiler.selection shape none phrase).statement
    (compiler.schema.IsPlain -> forall (number : Nat) (shape : ResultShape),
      (Store.read? (compiler.compilePhrase number phrase shape none).text).map corpus.rows =
        some (rows shape)) ∧
    Exists fun words : List Object =>
      rows .fullWord = words.map .object ∧
      rows .wordId = (words.map fun word => corpus.property word "id") ∧
      ((rows .distinctWork).Nodup ∧ forall datum, datum ∈ rows .distinctWork <->
        Exists fun word => word ∈ words ∧ corpus.property word "work" = datum) ∧
      ((rows .distinctWorkPart).Nodup ∧ forall datum, datum ∈ rows .distinctWorkPart <->
        Exists fun word => word ∈ words ∧ corpus.property word "workPart" = datum) := by
  intro rows
  constructor
  · intro plain number shape
    have written : (compiler.selection shape none phrase).Plain :=
      plain_selection plain (Phrase.wellFormed_of_parse accepted among)
    exact congrArg (Option.map corpus.rows) (Selection.read?_render written)
  · have full : ResultShape.fullWord.result = ["w0"] := rfl
    have identifier : ResultShape.wordId.result = ["w0", "id"] := rfl
    refine ⟨compiler.matchedWords corpus phrase, rows_unbound rfl full, rows_unbound rfl identifier,
      rows_distinct placed rfl rfl fun located => ?_,
      rows_distinct placed rfl rfl fun located => ?_⟩
    · rw [located.work]
      rfl
    · rw [located.workPart]
      rfl

end AnyEngine

/-- Words 0 and 3 stand in the same scene of one work.  They are followed by a word
of another scene and by a word of another work. -/
def scenes : Corpus Nat where
  extent entity :=
    ([("Word", [0, 1, 2, 3]), ("Work", [10, 11]), ("WorkPart", [20, 21, 22])].lookup entity).getD []
  property target name :=
    (([(0, [("work", .object 10), ("workPart", .object 20), ("next", .object 1)]),
        (1, [("work", .object 10), ("workPart", .object 21)]),
        (2, [("work", .object 11), ("workPart", .object 22), ("numWordParts", .number 2)]),
        (3, [("work", .object 10), ("workPart", .object 20), ("next", .object 2)]),
        (10, [("tag", .text "ham")]), (20, [("tag", .text "1")]), (21, [("tag", .text "2")]),
        (22, [("tag", .text "1")])].lookup target).bind (List.lookup name)).getD .null

/-- A work and a scene tested at the first position, where the shapes reach them in
different ways, and alternatives at the second one. -/
theorem shapes_agree_of_scenes :
    let query : Query :=
      ⟨⟨⟨⟨⟨.workTag, "ham", false, false⟩, [⟨.workPartTag, "1", false, false⟩]⟩, []⟩,
        [⟨⟨⟨.workPartTag, "1", true, false⟩, []⟩, [⟨⟨.wordPartCount, ">1", false, false⟩, []⟩]⟩]⟩, []⟩
    let rows (shape : ResultShape) :=
      scenes.rows (Compiler.selection {} shape none query.first).statement
    Query.parse "wtg(ham):ptg(1)$!ptg(1);wpc(\">1\")" = .ok query ∧
      scenes.Placed {} ∧
      (Store.read? (Compiler.compilePhrase {} 0 query.first .distinctWork none).text).map scenes.rows =
        some (rows .distinctWork) ∧
      rows .fullWord = [.object 0, .object 3] ∧
      rows .distinctWork = [.object 10] ∧
      (Exists fun words : List Nat =>
        rows .fullWord = words.map .object ∧
        forall datum, datum ∈ rows .distinctWorkPart <->
          Exists fun word => word ∈ words ∧ scenes.property word "workPart" = datum) := by
  intro query rows
  have read : (Query.parse "wtg(ham):ptg(1)$!ptg(1);wpc(\">1\")").toOption = some query := by
    decide +kernel
  have accepted := Query.parse_eq_ok_of_toOption read
  have among : query.first ∈ query.phrases := List.mem_cons_self
  have placed : scenes.Placed ({} : Compiler).schema := by
    have located : forall word, word ∈ scenes.extent "Word" ->
        Exists fun work => work ∈ scenes.extent "Work" ∧
          Exists fun part => part ∈ scenes.extent "WorkPart" ∧
            scenes.property word "work" = .object work ∧
              scenes.property word "workPart" = .object part := by decide +kernel
    intro word member
    rcases located word member with ⟨work, ofWorks, part, ofParts, inWork, inPart⟩
    exact ⟨work, ofWorks, part, ofParts, inWork, inPart⟩
  have plain : ({} : Compiler).schema.IsPlain := by constructor <;> decide +kernel
  rcases shapes_agree accepted among placed with ⟨texts, words, full, _, _, _, parts⟩
  exact ⟨accepted, placed, texts plain 0 .distinctWork, by decide +kernel, by decide +kernel, words,
    full, parts⟩

end Compiler

end Works

end CorpusQuery
