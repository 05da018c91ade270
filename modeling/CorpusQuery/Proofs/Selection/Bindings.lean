import CorpusQuery.Pattern.Standard
import CorpusQuery.Proofs.Selection.Expansion
import CorpusQuery.Proofs.Selection.Shapes

namespace CorpusQuery

/-!
# Which positions a fragment binds

A position other than the first is left out when it asks for nothing and joins no
part of its word.  Whether it asks for anything can depend on the known tags: a
negated pattern that occurs in none of them asks for nothing.  But only the part
of speech looks at the tags, and it is a property of a word part.  A term that may
go either way therefore joins a part, and its position stays in any case.

So the positions that a fragment binds are settled by the phrase, whatever it is
compiled with.  Each of them is tied exactly once: a word to the first one, by as
many successor steps as its index says, and a part to its word.
-/

/-! ## Terms that look at the tags -/

/-- What a term asks for depends on the tags only if the term joins a part. -/
theorem Term.question?_of_unjoined [Pattern.Engine] {term : Term}
    (unjoined : term.needsJoin = false)
    (tags other : TagSet) : term.question? tags = term.question? other := by
  unfold question?
  by_cases empty : term.isEmpty = true
  · rw [if_pos empty, if_pos empty]
  · rw [if_neg empty, if_neg empty]
    unfold conditionOn
    cases domain : term.attr.domain with
    | numeric => rfl
    | presence table => rfl
    | categorical table => rfl
    | text => rfl
    | externalCodes =>
        -- The tags are looked at here, and here the term joins a part.
        rw [needsJoin, Attribute.eq_partOfSpeech domain, Bool.eq_false_iff.mpr empty] at unjoined
        cases unjoined

namespace WordPosition

/-- The position joins a part exactly when one of its terms has a text and tests a
property of a part. -/
theorem needsJoin_iff {word : WordPosition} :
    word.needsJoin = true <->
      Exists fun term => term ∈ word.terms ∧ term.text ≠ "" ∧ term.attr.entity = .wordPart := by
  have joins : forall entity : Entity, entity.needsJoin = true <-> entity = .wordPart := by
    intro entity
    cases entity <;> decide
  have needed : forall term : Term, term.needsJoin = true <->
      term.text ≠ "" ∧ term.attr.entity = .wordPart := by
    intro term
    rw [Term.needsJoin, Bool.and_eq_true, joins, Bool.not_eq_true', Term.isEmpty,
      Bool.eq_false_iff, ne_eq, String.isEmpty_iff]
  rw [needsJoin, List.any_eq_true]
  constructor
  · rintro ⟨set, ofWord, found⟩
    rcases List.any_eq_true.mp found with ⟨term, ofSet, joined⟩
    exact ⟨term, mem_terms ofWord ofSet, (needed term).mp joined⟩
  · rintro ⟨term, among, tests⟩
    rcases List.mem_flatMap.mp among with ⟨set, ofWord, ofSet⟩
    exact ⟨set, ofWord, List.any_eq_true.mpr ⟨term, ofSet, (needed term).mpr tests⟩⟩

variable [Pattern.Engine]

theorem question?_of_unjoined {word : WordPosition} (unjoined : word.needsJoin = false)
    {set : TermSet} (ofWord : set ∈ word.sets) {term : Term} (ofSet : term ∈ set.terms)
    (tags other : TagSet) : term.question? tags = term.question? other := by
  apply Term.question?_of_unjoined
  apply Bool.eq_false_iff.mpr
  intro joins
  apply Bool.eq_false_iff.mp unjoined
  exact List.any_eq_true.mpr ⟨set, ofWord, List.any_eq_true.mpr ⟨term, ofSet, joins⟩⟩

/-- A position that joins no part asks for something at every place and with all
tags, or at none and with no tags. -/
theorem isNone_condition? {word : WordPosition} (unjoined : word.needsJoin = false)
    (scope other : Scope) : (word.condition? scope).isNone = (word.condition? other).isNone := by
  rw [Bool.eq_iff_iff, Option.isNone_iff_eq_none, Option.isNone_iff_eq_none, condition?_eq_none,
    condition?_eq_none]
  refine forall₂_congr fun set ofWord => forall₂_congr fun term ofSet => ?_
  rw [question?_of_unjoined unjoined ofWord ofSet scope.tags other.tags]

theorem predicate_ne_empty {word : WordPosition} {scope : Scope} :
    word.predicate scope ≠ "" <-> (word.condition? scope).isNone = false := by
  unfold predicate
  cases word.condition? scope with
  | none => simp
  | some alternatives =>
      have opened : Condition.renderAny alternatives ≠ "" := by
        intro empty
        have chars := congrArg String.toList empty
        rw [Condition.renderAny, String.append_assoc, String.toList_append] at chars
        cases chars
      simpa using opened

end WordPosition

/-! ## Positions that are bound -/

/-- A term of the position with this index has a text and tests a property of a
word part. -/
def Phrase.JoinsAt (phrase : Phrase) (index : Nat) : Prop :=
  Exists fun word => phrase.words[index]? = some word ∧
    Exists fun term => term ∈ word.terms ∧ term.text ≠ "" ∧ term.attr.entity = .wordPart

/-- The position with this index is the first, joins a part, or asks for something. -/
def Compiler.BindsAt [Pattern.Engine] (compiler : Compiler) (shape : ResultShape) (phrase : Phrase)
    (index : Nat) :
    Prop :=
  index = 0 ∨ phrase.JoinsAt index ∨
    Exists fun word => phrase.words[index]? = some word ∧
      word.predicate (compiler.scopeAt shape index) ≠ ""

/-- These are the names of all indices with some property, in increasing order of
the indices. -/
def Enumerates (names : List String) (name : Nat -> String) (member : Nat -> Prop) : Prop :=
  Exists fun indices : List Nat => indices.Pairwise (· < ·) ∧ names = indices.map name ∧
    forall index, index ∈ indices <-> member index

/-- What a position binds: the word with its index, and a part of it or none. -/
def BoundWord.outline (word : BoundWord) : Nat × Bool :=
  (word.index, word.needsJoin)

theorem BoundWord.wordAliases_outline (words : List BoundWord) :
    wordAliases words = (words.map outline).map fun bound => wordAlias bound.1 := by
  rw [List.map_map]
  rfl

theorem BoundWord.partAliases_outline (words : List BoundWord) :
    partAliases words =
      ((words.map outline).filter Prod.snd).map fun bound => partAlias bound.1 := by
  rw [List.filter_map, List.map_map]
  rfl

namespace Compiler

variable [Pattern.Engine] {compiler : Compiler} {shape : ResultShape} {phrase : Phrase}

/-- Whether a position is left out depends on nothing but the position. -/
theorem isIdle_eq (compiler other : Compiler) (shape shape' : ResultShape) (index : Nat)
    (word : WordPosition) :
    (compiler.boundAt shape index word).isIdle = (other.boundAt shape' index word).isIdle := by
  unfold BoundWord.isIdle boundAt
  cases joins : word.needsJoin with
  | true => simp only [Bool.not_true, Bool.and_false]
  | false =>
      rw [WordPosition.isNone_condition? joins (compiler.scopeAt shape index)
        (other.scopeAt shape' index)]

theorem outline_boundAt (compiler : Compiler) (shape : ResultShape) (index : Nat)
    (word : WordPosition) :
    (compiler.boundAt shape index word).outline = (index, word.needsJoin) :=
  rfl

/-- The positions that take part are those of the phrase, whatever it is compiled
with. -/
theorem outline_boundWords (compiler other : Compiler) (shape shape' : ResultShape)
    (phrase : Phrase) :
    (compiler.boundWords shape phrase).map BoundWord.outline =
      (other.boundWords shape' phrase).map BoundWord.outline := by
  unfold boundWords
  generalize 0 = start
  induction phrase.words generalizing start with
  | nil => rfl
  | cons word rest ih =>
      have step : forall (compiler : Compiler) (shape : ResultShape),
          compiler.wordsFrom shape start (word :: rest) =
            compiler.boundAt shape start word :: compiler.wordsFrom shape (start + 1) rest :=
        fun _ _ => rfl
      rw [step, step, List.filter_cons, List.filter_cons, isIdle_eq compiler other shape shape']
      split
      · rw [List.map_cons, List.map_cons, ih, outline_boundAt, outline_boundAt]
      · exact ih (start + 1)

theorem mem_indices {index : Nat} :
    index ∈ (compiler.boundWords shape phrase).map BoundWord.index <->
      compiler.BindsAt shape phrase index := by
  rw [List.mem_map]
  constructor
  · rintro ⟨bound, among, rfl⟩
    rcases mem_boundWords.mp among with ⟨index, word, found, rfl, busy⟩
    change compiler.BindsAt shape phrase index
    by_cases first : index = 0
    · exact Or.inl first
    · right
      unfold BoundWord.isIdle boundAt at busy
      cases joins : word.needsJoin with
      | true => exact Or.inl ⟨word, found, WordPosition.needsJoin_iff.mp joins⟩
      | false =>
          refine Or.inr ⟨word, found, WordPosition.predicate_ne_empty.mpr ?_⟩
          simpa [first, joins] using busy
  · intro binds
    have kept : forall word, phrase.words[index]? = some word ->
        (compiler.boundAt shape index word).isIdle = false ->
          Exists fun bound => bound ∈ compiler.boundWords shape phrase ∧ bound.index = index :=
      fun word found busy => ⟨_, mem_boundWords.mpr ⟨index, word, found, rfl, busy⟩, rfl⟩
    rcases binds with first | ⟨word, found, joins⟩ | ⟨word, found, asks⟩
    · subst first
      exact kept phrase.first rfl rfl
    · apply kept word found
      rw [BoundWord.isIdle, boundAt, WordPosition.needsJoin_iff.mpr joins, Bool.not_true,
        Bool.and_false]
    · apply kept word found
      rw [BoundWord.isIdle, boundAt, WordPosition.predicate_ne_empty.mp asks, Bool.and_false,
        Bool.false_and]

theorem mem_joined (compiler : Compiler) (shape : ResultShape) {index : Nat} :
    index ∈ ((compiler.boundWords shape phrase).filter BoundWord.needsJoin).map BoundWord.index <->
      phrase.JoinsAt index := by
  rw [List.mem_map]
  constructor
  · rintro ⟨bound, among, rfl⟩
    rcases List.mem_filter.mp among with ⟨taken, joins⟩
    rcases mem_boundWords.mp taken with ⟨index, word, found, rfl, _⟩
    exact ⟨word, found, WordPosition.needsJoin_iff.mp joins⟩
  · rintro ⟨word, found, tests⟩
    have joins := WordPosition.needsJoin_iff.mpr tests
    have busy : (compiler.boundAt shape index word).isIdle = false := by
      rw [BoundWord.isIdle, boundAt, joins, Bool.not_true, Bool.and_false]
    have taken := mem_boundWords.mpr ⟨index, word, found, rfl, busy⟩
    exact ⟨_, List.mem_filter.mpr ⟨taken, joins⟩, rfl⟩

theorem enumerates_words (compiler : Compiler) (shape : ResultShape) (phrase : Phrase) :
    Enumerates (BoundWord.wordAliases (compiler.boundWords shape phrase)) wordAlias
      (compiler.BindsAt shape phrase) := by
  refine ⟨(compiler.boundWords shape phrase).map BoundWord.index, ?_, ?_, fun _ => mem_indices⟩
  · exact List.pairwise_map.mpr (boundWords_increasing phrase)
  · rw [List.map_map]
    rfl

theorem enumerates_parts (compiler : Compiler) (shape : ResultShape) (phrase : Phrase) :
    Enumerates (BoundWord.partAliases (compiler.boundWords shape phrase)) partAlias
      phrase.JoinsAt := by
  refine ⟨((compiler.boundWords shape phrase).filter BoundWord.needsJoin).map BoundWord.index,
    ?_, ?_, fun _ => mem_joined compiler shape⟩
  · exact List.pairwise_map.mpr ((boundWords_increasing phrase).filter _)
  · rw [List.map_map]
    rfl

end Compiler

/-! ## How positions are tied together -/

/-- The written condition says what a path is. -/
def isTie (path text : String) : Bool :=
  (path ++ " = ").toList.isPrefixOf text.toList

/-- The written conditions of a selection that say what a path is. -/
def Selection.ties (selection : Selection) (path : String) : List String :=
  (selection.clauses.map Clause.render).filter (isTie path)

/-- A path ends where the blank before the equality sign stands. -/
theorem isPrefixOf_path {path left : List Char} (plain : ' ' ∉ path) (plain' : ' ' ∉ left)
    (right : List Char) :
    (path ++ " = ".toList).isPrefixOf (left ++ (" = ".toList ++ right)) = decide (path = left) := by
  induction path generalizing left with
  | nil =>
      cases left with
      | nil => simp
      | cons c left =>
          have visible : c ≠ ' ' := fun blank => plain' (by rw [blank]; exact List.mem_cons_self)
          simp [List.isPrefixOf, visible.symm]
  | cons c path ih =>
      have visible : c ≠ ' ' := fun blank => plain (by rw [blank]; exact List.mem_cons_self)
      have later : ' ' ∉ path := fun member => plain (List.mem_cons_of_mem _ member)
      cases left with
      | nil => simp [List.isPrefixOf, visible]
      | cons d left =>
          have later' : ' ' ∉ left := fun member => plain' (List.mem_cons_of_mem _ member)
          rw [List.cons_append, List.cons_append, List.isPrefixOf, ih later later']
          by_cases same : c = d
          · simp [same]
          · simp [same]

/-- The path that a clause is about. -/
def Clause.left? : Clause -> Option String
  | .binding left _ => some left
  | .filter _ | .constraint _ => none

/-- The clauses whose written form says what a path is are the bindings of the path. -/
theorem isTie_render {path : String} {letters : List Char} (shown : path.toList = 'w' :: letters)
    (plain : ' ' ∉ path.toList) {clause : Clause}
    (clear : forall left, clause.left? = some left -> ' ' ∉ left.toList) :
    isTie path clause.render = decide (clause.left? = some path) := by
  have opened : forall inner, isTie path ("(" ++ inner) = false := by
    intro inner
    have paren : "(".toList = ['('] := by decide
    unfold isTie
    rw [String.toList_append, String.toList_append, shown, paren]
    rfl
  cases clause with
  | filter text =>
      rw [Clause.render, String.append_assoc, opened]
      rfl
  | constraint alternatives =>
      rw [Clause.render, Condition.renderAny, String.append_assoc, opened]
      rfl
  | binding left right =>
      unfold isTie Clause.render
      rw [String.toList_append, String.toList_append, String.toList_append, List.append_assoc,
        isPrefixOf_path plain (clear left rfl)]
      apply decide_eq_decide.mpr
      rw [String.toList_inj, Clause.left?, Option.some.injEq, eq_comm]

theorem Selection.ties_eq (selection : Selection) {path : String} {letters : List Char}
    (shown : path.toList = 'w' :: letters) (plain : ' ' ∉ path.toList)
    (clear : forall clause, clause ∈ selection.clauses ->
      forall left, clause.left? = some left -> ' ' ∉ left.toList) :
    selection.ties path =
      (selection.clauses.filter fun clause => clause.left? = some path).map Clause.render := by
  unfold ties
  rw [List.filter_map]
  congr 1
  apply List.filter_congr
  intro clause member
  exact isTie_render shown plain (clear clause member)

theorem Clause.filter_left {clauses : List Clause} {own : String}
    (about : forall clause, clause ∈ clauses -> clause.left? = some own) (path : String) :
    (clauses.filter fun clause => clause.left? = some path) =
      if own = path then clauses else [] := by
  by_cases same : own = path
  · rw [if_pos same]
    apply List.filter_eq_self.mpr
    intro clause member
    rw [about clause member, same, decide_eq_true_eq]
  · rw [if_neg same]
    apply List.filter_eq_nil_iff.mpr
    intro clause member
    rw [about clause member, decide_eq_true_eq, Option.some.injEq]
    exact same

theorem Clause.filter_no_left {clauses : List Clause}
    (about : forall clause, clause ∈ clauses -> clause.left? = none) (path : String) :
    (clauses.filter fun clause => clause.left? = some path) = [] := by
  apply List.filter_eq_nil_iff.mpr
  intro clause member
  rw [about clause member, decide_eq_true_eq]
  intro impossible
  cases impossible

/-! ## Paths that are tied -/

theorem blank_not_mem_repr (index : Nat) : ' ' ∉ (Nat.repr index).toList := by
  intro member
  have digit := Store.isDigit_of_mem_repr member
  cases digit

theorem blank_not_mem_wordAlias (index : Nat) : ' ' ∉ (wordAlias index).toList := by
  rw [wordAlias, String.toList_append, List.mem_append]
  rintro (blank | blank)
  · exact absurd blank (by decide)
  · exact blank_not_mem_repr index blank

/-- The path from a part to its word. -/
def partWord (index : Nat) : String :=
  partAlias index ++ ".word"

theorem toList_partWord (index : Nat) :
    (partWord index).toList = 'w' :: 'p' :: ((Nat.repr index).toList ++ ".word".toList) := by
  rw [partWord, partAlias, String.toList_append, String.toList_append]
  rfl

theorem blank_not_mem_partWord (index : Nat) : ' ' ∉ (partWord index).toList := by
  rw [toList_partWord, List.mem_cons, List.mem_cons, List.mem_append]
  rintro (blank | blank | blank | blank)
  · exact absurd blank (by decide)
  · exact absurd blank (by decide)
  · exact blank_not_mem_repr index blank
  · exact absurd blank (by decide)

theorem wordAlias_ne_partWord (one other : Nat) : wordAlias one ≠ partWord other :=
  wordAlias_ne (toList_partWord other) (by decide) one

theorem partWord_injective {one other : Nat} (same : partWord one = partWord other) :
    one = other :=
  partAlias_injective ((String.append_left_inj ".word").mp same)

namespace BoundWord

/-- How a position is tied to the first one. -/
def chain (schema : Schema) (word : BoundWord) : List Clause :=
  if word.index = 0 then []
  else [.binding (wordAlias word.index)
    ("w0" ++ Text.repeated ("." ++ schema.successor) word.index)]

/-- How the part of a position is tied to its word. -/
def joint (word : BoundWord) : List Clause :=
  if word.needsJoin then [.binding (partWord word.index) (wordAlias word.index)] else []

theorem bindings_eq (schema : Schema) (word : BoundWord) :
    word.bindings schema = word.chain schema ++ word.joint :=
  rfl

theorem left_of_mem_chain {schema : Schema} {word : BoundWord} {clause : Clause}
    (member : clause ∈ word.chain schema) : clause.left? = some (wordAlias word.index) := by
  unfold chain at member
  split at member
  · cases member
  · rw [List.mem_singleton.mp member]
    rfl

theorem left_of_mem_joint {word : BoundWord} {clause : Clause} (member : clause ∈ word.joint) :
    clause.left? = some (partWord word.index) := by
  unfold joint at member
  split at member
  · rw [List.mem_singleton.mp member]
    rfl
  · cases member

/-- Of the ties of a position, its own alias has the chain. -/
theorem filter_bindings_word (schema : Schema) (word : BoundWord) (index : Nat) :
    ((word.bindings schema).filter fun clause => clause.left? = some (wordAlias index)) =
      if word.index = index then word.chain schema else [] := by
  have own : wordAlias word.index = wordAlias index <-> word.index = index :=
    ⟨wordAlias_injective, fun same => congrArg wordAlias same⟩
  rw [bindings_eq, List.filter_append, Clause.filter_left (fun _ => left_of_mem_chain),
    Clause.filter_left (fun _ => left_of_mem_joint),
    if_neg (wordAlias_ne_partWord index word.index).symm, List.append_nil]
  simp only [own]

/-- The path from its part has the joint. -/
theorem filter_bindings_part (schema : Schema) (word : BoundWord) (index : Nat) :
    ((word.bindings schema).filter fun clause => clause.left? = some (partWord index)) =
      if word.index = index then word.joint else [] := by
  have own : partWord word.index = partWord index <-> word.index = index :=
    ⟨partWord_injective, fun same => congrArg partWord same⟩
  rw [bindings_eq, List.filter_append, Clause.filter_left (fun _ => left_of_mem_chain),
    Clause.filter_left (fun _ => left_of_mem_joint),
    if_neg (wordAlias_ne_partWord word.index index), List.nil_append]
  simp only [own]

/-- Of positions with increasing indices, only the one with the index contributes. -/
theorem flatMap_of_mem {α : Type} {words : List BoundWord}
    (increasing : words.Pairwise fun one other => one.index < other.index) {bound : BoundWord}
    (among : bound ∈ words) (part : BoundWord -> List α) :
    (words.flatMap fun word => if word.index = bound.index then part word else []) =
      part bound := by
  induction words with
  | nil => cases among
  | cons first rest ih =>
      rcases List.pairwise_cons.mp increasing with ⟨above, later⟩
      rw [List.flatMap_cons]
      rcases List.mem_cons.mp among with same | within
      · subst same
        have nothing : (rest.flatMap fun word =>
            if word.index = bound.index then part word else []) = [] := by
          apply List.flatMap_eq_nil_iff.mpr
          intro word member
          rw [if_neg (Nat.ne_of_gt (above word member))]
        rw [nothing, List.append_nil, if_pos rfl]
      · rw [if_neg (Nat.ne_of_lt (above bound within)), List.nil_append, ih later within]

end BoundWord

namespace Compiler

variable {compiler : Compiler} {shape : ResultShape} {phrase : Phrase}

theorem workBindings_left {clause : Clause} (member : clause ∈ workBindings shape) :
    clause.left? = some "w0.work" ∨ clause.left? = some "w0.workPart" := by
  unfold workBindings at member
  split at member
  · rcases List.mem_cons.mp member with same | later
    · rw [same]
      exact Or.inl rfl
    · rw [List.mem_singleton.mp later]
      exact Or.inr rfl
  · cases member

theorem filterClauses_left {filter : Option String} {clause : Clause}
    (member : clause ∈ filterClauses filter) : clause.left? = none := by
  unfold filterClauses at member
  split at member
  · cases member
  · split at member
    · cases member
    · rw [List.mem_singleton.mp member]
      rfl

theorem constraints_left {word : BoundWord} {clause : Clause}
    (member : clause ∈ word.constraints) : clause.left? = none := by
  rcases List.mem_map.mp member with ⟨alternatives, _, same⟩
  rw [<- same]
  rfl

section AnyEngine

variable [Pattern.Engine]

/-- No path on the left of a binding has a blank in it. -/
theorem clear_selection (filter : Option String) {clause : Clause}
    (member : clause ∈ (compiler.selection shape filter phrase).clauses) {left : String}
    (about : clause.left? = some left) : ' ' ∉ left.toList := by
  rcases List.mem_append.mp member with outer | constraint
  · rcases List.mem_append.mp outer with first | binding
    · rcases List.mem_append.mp first with filtered | work
      · rw [filterClauses_left filtered] at about
        cases about
      · rcases workBindings_left work with same | same
        · rw [same] at about
          cases about
          decide
        · rw [same] at about
          cases about
          decide
    · rcases List.mem_flatMap.mp binding with ⟨word, _, among⟩
      rw [BoundWord.bindings_eq] at among
      rcases List.mem_append.mp among with chain | joint
      · rw [BoundWord.left_of_mem_chain chain] at about
        cases about
        exact blank_not_mem_wordAlias word.index
      · rw [BoundWord.left_of_mem_joint joint] at about
        cases about
        exact blank_not_mem_partWord word.index
  · rcases List.mem_flatMap.mp constraint with ⟨word, _, among⟩
    rw [constraints_left among] at about
    cases about

/-- A path that is not a work of the first word is tied by positions only. -/
theorem ties_selection (filter : Option String) {path : String} {letters : List Char}
    (shown : path.toList = 'w' :: letters) (plain : ' ' ∉ path.toList)
    (apart : path ≠ "w0.work" ∧ path ≠ "w0.workPart") :
    (compiler.selection shape filter phrase).ties path =
      ((compiler.boundWords shape phrase).flatMap fun word =>
        (word.bindings compiler.schema).filter fun clause =>
          clause.left? = some path).map Clause.render := by
  rw [Selection.ties_eq _ shown plain fun clause member left => clear_selection filter member]
  congr 1
  have works : ((workBindings shape).filter fun clause => clause.left? = some path) = [] := by
    apply List.filter_eq_nil_iff.mpr
    intro clause member
    rw [decide_eq_true_eq]
    intro same
    rcases workBindings_left member with work | work
    · exact apart.1 (Option.some.inj (same.symm.trans work))
    · exact apart.2 (Option.some.inj (same.symm.trans work))
  have constrained : forall clause,
      clause ∈ (compiler.boundWords shape phrase).flatMap BoundWord.constraints ->
        clause.left? = none := by
    intro clause member
    rcases List.mem_flatMap.mp member with ⟨word, _, among⟩
    exact constraints_left among
  change List.filter _ (_ ++ _ ++ _ ++ _) = _
  rw [List.filter_append, List.filter_append, List.filter_append,
    Clause.filter_no_left (fun _ => filterClauses_left), works, Clause.filter_no_left constrained,
    List.append_nil, List.nil_append, List.nil_append, List.filter_flatMap]

/-- A position that takes part is tied to the first one by its chain. -/
theorem ties_word (filter : Option String) {bound : BoundWord}
    (among : bound ∈ compiler.boundWords shape phrase) :
    (compiler.selection shape filter phrase).ties (wordAlias bound.index) =
      (bound.chain compiler.schema).map Clause.render := by
  have apart : forall {name : String}, '.' ∈ name.toList -> wordAlias bound.index ≠ name := by
    intro name dotted same
    rw [<- same] at dotted
    exact Store.dot_not_mem_of_isName (isName_wordAlias bound.index) dotted
  rw [ties_selection filter (by rw [wordAlias, String.toList_append]; rfl)
    (blank_not_mem_wordAlias bound.index) ⟨apart (by decide), apart (by decide)⟩]
  simp only [BoundWord.filter_bindings_word]
  rw [BoundWord.flatMap_of_mem (boundWords_increasing phrase) among]

/-- Its part, if it joins one, is tied to it. -/
theorem ties_part (filter : Option String) {bound : BoundWord}
    (among : bound ∈ compiler.boundWords shape phrase) :
    (compiler.selection shape filter phrase).ties (partWord bound.index) =
      bound.joint.map Clause.render := by
  have apart : forall {name : String}, name.toList[1]? = some '0' ->
      partWord bound.index ≠ name := by
    intro name second same
    rw [<- same, toList_partWord] at second
    cases second
  rw [ties_selection filter (toList_partWord bound.index) (blank_not_mem_partWord bound.index)
    ⟨apart (by decide), apart (by decide)⟩]
  simp only [BoundWord.filter_bindings_part]
  rw [BoundWord.flatMap_of_mem (boundWords_increasing phrase) among]

/-- What a fragment binds is settled by the phrase: it is the same whatever the
phrase is compiled with.  The parts are those of the positions with a text on a
word part, the words those of the first position, of these positions and of all
that ask for something.  Among the written conditions exactly one says what such a
word is, by successor steps from the first one, and exactly one ties each part to
its word. -/
theorem compilePhrase_binds (compiler : Compiler) (shape : ResultShape) (filter : Option String)
    (number : Nat) (phrase : Phrase) :
    let fragment := compiler.compilePhrase number phrase shape filter
    let selection := compiler.selection shape filter phrase
    (forall (other : Compiler) (shape' : ResultShape) (filter' : Option String) (number' : Nat),
      let fragment' := other.compilePhrase number' phrase shape' filter'
      fragment'.wordAliases = fragment.wordAliases ∧
        fragment'.partAliases = fragment.partAliases) ∧
    Enumerates fragment.partAliases partAlias phrase.JoinsAt ∧
    Enumerates fragment.wordAliases wordAlias (compiler.BindsAt shape phrase) ∧
    fragment.text = selection.render ∧
    forall index : Nat,
      (0 < index -> compiler.BindsAt shape phrase index ->
        selection.ties (wordAlias index) =
          [wordAlias index ++ " = w0" ++ Text.repeated ("." ++ compiler.schema.successor) index]) ∧
      (phrase.JoinsAt index ->
        selection.ties (partAlias index ++ ".word") =
          [partAlias index ++ ".word = " ++ wordAlias index]) := by
  intro fragment selection
  refine ⟨?_, compiler.enumerates_parts shape phrase, compiler.enumerates_words shape phrase, rfl,
    fun index => ⟨?_, ?_⟩⟩
  · intro other shape' filter' number' fragment'
    change BoundWord.wordAliases _ = BoundWord.wordAliases _ ∧
      BoundWord.partAliases _ = BoundWord.partAliases _
    rw [BoundWord.wordAliases_outline, BoundWord.wordAliases_outline,
      BoundWord.partAliases_outline, BoundWord.partAliases_outline,
      outline_boundWords other compiler shape' shape phrase]
    exact ⟨rfl, rfl⟩
  · intro later binds
    have sign : " = " ++ "w0" = " = w0" := by decide
    rcases List.mem_map.mp (mem_indices.mpr binds) with ⟨bound, among, rfl⟩
    rw [ties_word filter among, BoundWord.chain, if_neg (Nat.ne_of_gt later), List.map_singleton,
      Clause.render, <- sign]
    simp only [String.append_assoc]
  · intro joins
    have sign' : ".word" ++ " = " = ".word = " := by decide
    rcases List.mem_map.mp ((mem_joined compiler shape).mpr joins) with ⟨bound, member, rfl⟩
    rcases List.mem_filter.mp member with ⟨among, joined⟩
    change selection.ties (partWord bound.index) = _
    rw [ties_part filter among, BoundWord.joint, if_pos joined, List.map_singleton, Clause.render,
      partWord, <- sign']
    simp only [String.append_assoc]

end AnyEngine

/-- Behind the first position stand a negated pattern that occurs in no known tag,
which asks for nothing and is bound all the same, a position that is left out, and
one that joins a part. -/
theorem compilePhrase_binds_of_vanishing :
    let vanishing : WordPosition := ⟨⟨⟨.partOfSpeech, "^x", true, true⟩, []⟩, []⟩
    let phrase : Phrase := ⟨⟨⟨⟨.spelling, "love", false, false⟩, []⟩, []⟩,
      [vanishing, ⟨⟨⟨.spelling, "", false, false⟩, []⟩, []⟩,
        ⟨⟨⟨.headword, "y", false, false⟩, []⟩, []⟩]⟩
    let tagged : Compiler := { tags := .ofList ["n"] }
    let selection := tagged.selection .wordId none phrase
    vanishing.predicate (tagged.scopeAt .wordId 1) = "" ∧
      (tagged.compilePhrase 0 phrase .wordId none).wordAliases = ["w0", "w1", "w3"] ∧
      (Compiler.compilePhrase {} 7 phrase .distinctWork (some "open")).wordAliases =
        ["w0", "w1", "w3"] ∧
      selection.ties (wordAlias 3) =
        [wordAlias 3 ++ " = w0" ++ Text.repeated ("." ++ tagged.schema.successor) 3] ∧
      selection.ties (partAlias 1 ++ ".word") = [partAlias 1 ++ ".word = " ++ wordAlias 1] := by
  intro vanishing phrase tagged selection
  have binds := tagged.compilePhrase_binds .wordId none 0 phrase
  have listed : (tagged.compilePhrase 0 phrase .wordId none).wordAliases = ["w0", "w1", "w3"] := by
    decide +kernel
  have part : forall index word, phrase.words[index]? = some word -> word.needsJoin = true ->
      phrase.JoinsAt index :=
    fun index word found joins => ⟨word, found, WordPosition.needsJoin_iff.mp joins⟩
  refine ⟨by decide +kernel, listed, (binds.1 {} .distinctWork (some "open") 7).1.trans listed,
    (binds.2.2.2.2 3).1 (by decide) (Or.inr (Or.inl (part 3 _ rfl rfl))),
    (binds.2.2.2.2 1).2 (part 1 _ rfl rfl)⟩

end Compiler

end CorpusQuery
