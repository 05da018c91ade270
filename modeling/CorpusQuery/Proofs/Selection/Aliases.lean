import CorpusQuery.Pattern.Standard
import CorpusQuery.Proofs.Selection.Reading
import Mathlib

namespace CorpusQuery

/-!
# Aliases

The sources of a fragment bind distinct aliases, and a fragment mentions no
alias that its sources do not bind.  Which positions are left out, which of them
join a word part, and how a field reaches a work are decided in different
places; here they are shown to agree.

A position mentions its own word, the part of its word if it joins one, and the
works bound by name if it is the first position of a shape that binds them.
-/

/-! ## Different aliases -/

theorem wordAlias_injective {one other : Nat} (same : wordAlias one = wordAlias other) :
    one = other :=
  Nat.repr_injective ((String.append_right_inj "w").mp same)

theorem partAlias_injective {one other : Nat} (same : partAlias one = partAlias other) :
    one = other :=
  Nat.repr_injective ((String.append_right_inj "wp").mp same)

/-- The alias of a word goes on with a digit. -/
theorem wordAlias_ne {name : String} {c : Char} {rest : List Char}
    (spelled : name.toList = 'w' :: c :: rest) (letter : Text.isDigit c = false) (index : Nat) :
    wordAlias index ≠ name := by
  intro same
  have chars := congrArg String.toList same
  rcases Store.repr_cons index with ⟨d, more, digits, digit⟩
  rw [spelled, wordAlias, String.toList_append, digits] at chars
  have second : d = c := by
    injection chars with _ tail
    injection tail
  rw [<- second, digit] at letter
  cases letter

theorem wordAlias_ne_partAlias (one other : Nat) : wordAlias one ≠ partAlias other := by
  have spelled : (partAlias other).toList = 'w' :: 'p' :: (Nat.repr other).toList := by
    rw [partAlias, String.toList_append]
    rfl
  exact wordAlias_ne spelled (by decide) one

theorem partAlias_ne {name : String} {c : Char} {rest : List Char}
    (spelled : name.toList = 'w' :: c :: rest) (other : c ≠ 'p') (index : Nat) :
    partAlias index ≠ name := by
  intro same
  have chars := congrArg String.toList same
  rw [spelled, partAlias, String.toList_append] at chars
  injection chars with _ tail
  injection tail with second
  exact other second.symm

/-- The names bound for works. -/
def ResultShape.workNames (shape : ResultShape) : List String :=
  if shape.bindsWork then ["work", "workPart"] else []

theorem ResultShape.workNames_cases {shape : ResultShape} {name : String}
    (member : name ∈ shape.workNames) :
    (name = "work" ∨ name = "workPart") ∧ shape.bindsWork = true := by
  unfold workNames at member
  split at member
  · rename_i binds
    rcases List.mem_cons.mp member with same | later
    · exact ⟨Or.inl same, binds⟩
    · exact ⟨Or.inr (List.mem_singleton.mp later), binds⟩
  · cases member

theorem alias_ne_workNames {shape : ResultShape} {name : String} (member : name ∈ shape.workNames)
    (index : Nat) : wordAlias index ≠ name ∧ partAlias index ≠ name := by
  rcases (ResultShape.workNames_cases member).1 with same | same <;> rw [same]
  · have spelled : "work".toList = 'w' :: 'o' :: ['r', 'k'] := by decide
    exact ⟨wordAlias_ne spelled (by decide) index, partAlias_ne spelled (by decide) index⟩
  · have spelled : "workPart".toList = 'w' :: 'o' :: ['r', 'k', 'P', 'a', 'r', 't'] := by decide
    exact ⟨wordAlias_ne spelled (by decide) index, partAlias_ne spelled (by decide) index⟩

/-! ## Sources -/

namespace BoundWord

def wordAliases (words : List BoundWord) : List String :=
  words.map fun word => wordAlias word.index

def partAliases (words : List BoundWord) : List String :=
  (words.filter needsJoin).map fun word => partAlias word.index

theorem partAliases_eq (words : List BoundWord) :
    partAliases words =
      words.flatMap fun word => if word.needsJoin then [partAlias word.index] else [] := by
  induction words with
  | nil => rfl
  | cons word rest ih =>
      rw [partAliases, List.filter_cons, List.flatMap_cons, <- ih]
      cases word.needsJoin <;> rfl

theorem names_perm (schema : Schema) (words : List BoundWord) :
    ((words.flatMap (sources schema)).map Source.name).Perm
      (wordAliases words ++ partAliases words) := by
  have names : (words.flatMap (sources schema)).map Source.name =
      words.flatMap fun word =>
        wordAlias word.index :: if word.needsJoin then [partAlias word.index] else [] := by
    rw [List.map_flatMap]
    refine List.flatMap_congr ?_
    intro word _
    rw [sources, List.map_cons]
    cases word.needsJoin <;> rfl
  rw [names, partAliases_eq]
  exact (List.map_append_flatMap_perm words _ _).symm

theorem nodup_aliases {words : List BoundWord}
    (increasing : words.Pairwise fun one other => one.index < other.index) :
    (wordAliases words).Nodup ∧ (partAliases words).Nodup := by
  constructor
  · refine List.pairwise_map.mpr (increasing.imp ?_)
    intro one other below same
    exact Nat.ne_of_lt below (wordAlias_injective same)
  · refine List.pairwise_map.mpr ((increasing.filter needsJoin).imp ?_)
    intro one other below same
    exact Nat.ne_of_lt below (partAlias_injective same)

end BoundWord

namespace Compiler

variable [Pattern.Engine] {compiler : Compiler} {shape : ResultShape}

theorem names_perm (compiler : Compiler) (shape : ResultShape) (phrase : Phrase) :
    ((compiler.selection shape none phrase).sources.map Source.name).Perm
      (BoundWord.wordAliases (compiler.boundWords shape phrase) ++
        BoundWord.partAliases (compiler.boundWords shape phrase) ++ shape.workNames) := by
  have works : (workSources compiler.schema shape).map Source.name = shape.workNames := by
    rw [workSources, ResultShape.workNames]
    cases shape.bindsWork <;> rfl
  change ((workSources compiler.schema shape ++
    (compiler.boundWords shape phrase).flatMap (BoundWord.sources compiler.schema)).map
      Source.name).Perm _
  rw [List.map_append, works]
  exact List.perm_append_comm.trans ((BoundWord.names_perm compiler.schema _).append_right _)

theorem nodup_names (compiler : Compiler) (shape : ResultShape) (phrase : Phrase) :
    ((compiler.selection shape none phrase).sources.map Source.name).Nodup := by
  rw [(compiler.names_perm shape phrase).nodup_iff, List.nodup_append, List.nodup_append]
  rcases BoundWord.nodup_aliases (compiler.boundWords_increasing phrase) with ⟨words, parts⟩
  refine ⟨⟨words, parts, ?_⟩, ?_, ?_⟩
  · intro word among part within
    rcases List.mem_map.mp among with ⟨one, _, named⟩
    rcases List.mem_map.mp within with ⟨other, _, same⟩
    rw [<- named, <- same]
    exact wordAlias_ne_partAlias one.index other.index
  · rw [ResultShape.workNames]
    cases shape.bindsWork <;> decide
  · intro name among work within
    have differs := alias_ne_workNames within
    rcases List.mem_append.mp among with here | here
    · rcases List.mem_map.mp here with ⟨bound, _, same⟩
      rw [<- same]
      exact (differs bound.index).1
    · rcases List.mem_map.mp here with ⟨bound, _, same⟩
      rw [<- same]
      exact (differs bound.index).2

/-- What the sources of a selection bind. -/
theorem mem_names {phrase : Phrase} {name : String} :
    name ∈ (compiler.selection shape none phrase).sources.map Source.name <->
      (name ∈ BoundWord.wordAliases (compiler.boundWords shape phrase) ∨
        name ∈ BoundWord.partAliases (compiler.boundWords shape phrase)) ∨
        name ∈ shape.workNames := by
  rw [(compiler.names_perm shape phrase).mem_iff, List.mem_append, List.mem_append]

theorem wordAlias_mem_names {phrase : Phrase} {bound : BoundWord}
    (among : bound ∈ compiler.boundWords shape phrase) :
    wordAlias bound.index ∈ (compiler.selection shape none phrase).sources.map Source.name :=
  mem_names.mpr (Or.inl (Or.inl (List.mem_map_of_mem among)))

theorem partAlias_mem {phrase : Phrase} {bound : BoundWord}
    (among : bound ∈ compiler.boundWords shape phrase) (joins : bound.needsJoin = true) :
    partAlias bound.index ∈ BoundWord.partAliases (compiler.boundWords shape phrase) :=
  List.mem_map.mpr ⟨bound, List.mem_filter.mpr ⟨among, joins⟩, rfl⟩

theorem first_mem_names (compiler : Compiler) (shape : ResultShape) (phrase : Phrase) :
    "w0" ∈ (compiler.selection shape none phrase).sources.map Source.name := by
  rcases compiler.boundWords_eq_cons shape phrase with ⟨rest, words⟩
  have among : compiler.boundAt shape 0 phrase.first ∈ compiler.boundWords shape phrase := by
    rw [words]
    exact List.mem_cons_self
  have first : wordAlias 0 = "w0" := by decide +kernel
  rw [<- first]
  change wordAlias (compiler.boundAt shape 0 phrase.first).index ∈ _
  exact wordAlias_mem_names among

end Compiler

/-! ## Mentioned aliases -/

theorem Store.Formula.mem_aliases_either {alternatives : List (List Store.Formula)}
    {name : String} :
    name ∈ (Store.Formula.either alternatives).aliases <->
      Exists fun conditions => conditions ∈ alternatives ∧
        Exists fun condition => condition ∈ conditions ∧ name ∈ condition.aliases := by
  rw [either, aliases_group, aliasesOf]
  simp [every, aliases_group, aliasesOf]

theorem Operand.aliases_value (operand : Operand) : operand.value.aliases = [] := by
  cases operand <;> rfl

namespace Condition

theorem aliases_compare (field : String) (relation : Relation) (operand : Operand) :
    (compare field relation operand).formula.aliases =
      (Store.Value.path (Store.dotted field)).aliases := by
  rw [formula, Store.Formula.aliases, Store.Atom.aliases, operand.aliases_value, List.append_nil]

theorem aliases_member (negated : Bool) (field : String) (operands : List Operand) :
    (member negated field operands).formula.aliases =
      (Store.Value.path (Store.dotted field)).aliases := by
  have unnamed : (operands.map Operand.value).flatMap Store.Value.aliases = [] := by
    rw [List.flatMap_map, List.flatMap_eq_nil_iff]
    exact fun operand _ => operand.aliases_value
  rw [formula, Store.Formula.aliases, Store.Atom.aliases, unnamed, List.append_nil]

end Condition

/-- What the condition of a term mentions is where its field starts. -/
theorem Term.Asks.aliases [Pattern.Engine] {term : Term} {scope : Scope} {inner : Condition}
    (asks : term.Asks scope inner) {name : String} (mentioned : name ∈ inner.formula.aliases) :
    name ∈ (Store.Value.path (Store.dotted (scope.field term.attr))).aliases := by
  cases asks with
  | number domain split => rwa [Condition.aliases_compare] at mentioned
  | code domain known coded => rwa [Term.equality, Condition.aliases_compare] at mentioned
  | literal free literal => rwa [Term.equality, Condition.aliases_compare] at mentioned
  | codes domain some => rwa [Condition.aliases_member] at mentioned
  | tags domain tried some => rwa [Condition.aliases_member] at mentioned
  | found free pattern untried => rwa [Condition.formula, Store.Formula.aliases] at mentioned
  | present domain expected => rwa [Condition.formula, Store.Formula.aliases] at mentioned
  | never none =>
      rw [Condition.formula, Store.Formula.aliases] at mentioned
      cases mentioned

namespace Compiler

variable {compiler : Compiler} {shape : ResultShape}

/-- The aliases that a position may mention. -/
def Mentions (shape : ResultShape) (index : Nat) (joins : Bool) (name : String) : Prop :=
  name = wordAlias index ∨ (name = partAlias index ∧ joins = true) ∨
    (name ∈ shape.workNames ∧ index = 0)

/-- A work is reached through the word, or by name at the first position. -/
theorem mentions_reach {index : Nat} {work name : String} {more : List String} (joins : Bool)
    (reached : (compiler.scopeAt shape index).reach work = name :: more)
    (listed : shape.bindsWork = true -> work ∈ shape.workNames) :
    Mentions shape index joins name := by
  rw [Scope.reach] at reached
  cases access : (compiler.scopeAt shape index).access with
  | throughWord =>
      rw [access] at reached
      cases reached
      exact Or.inl rfl
  | bound =>
      rw [access] at reached
      cases reached
      change shape.workAccess index = .bound at access
      unfold ResultShape.workAccess at access
      split at access
      · rename_i both
        rw [Bool.and_eq_true, beq_iff_eq] at both
        exact Or.inr (Or.inr ⟨listed both.1, both.2⟩)
      · cases access

theorem mentions_root {index : Nat} {entity : Entity} {name : String} {more : List String}
    (root : (compiler.scopeAt shape index).root entity = name :: more) :
    Mentions shape index entity.needsJoin name := by
  cases entity with
  | word =>
      cases root
      exact Or.inl rfl
  | wordPart =>
      cases root
      exact Or.inr (Or.inl ⟨rfl, rfl⟩)
  | work =>
      refine mentions_reach _ root ?_
      intro binds
      rw [ResultShape.workNames, if_pos binds]
      exact List.mem_cons_self
  | workPart =>
      refine mentions_reach _ root ?_
      intro binds
      rw [ResultShape.workNames, if_pos binds]
      exact List.mem_cons_of_mem _ List.mem_cons_self

theorem binding_aliases (left right : String) :
    (Clause.binding left right).formula.aliases =
      (Store.Value.path (Store.dotted left)).aliases ++
        (Store.Value.path (Store.dotted right)).aliases := by
  rw [Clause.formula, Store.Formula.aliases]
  rfl

theorem workBindings_aliases {clause : Clause} (member : clause ∈ workBindings shape)
    {name : String}
    (mentioned : name ∈ clause.formula.aliases) : name = "w0" ∨ name ∈ shape.workNames := by
  have work : (Clause.binding "w0.work" "work").formula.aliases = ["w0", "work"] := by
    rw [binding_aliases]
    decide +kernel
  have workPart : (Clause.binding "w0.workPart" "workPart").formula.aliases =
      ["w0", "workPart"] := by
    rw [binding_aliases]
    decide +kernel
  unfold workBindings at member
  rw [ResultShape.workNames]
  split at member
  · rename_i binds
    rw [if_pos binds]
    rcases List.mem_cons.mp member with same | later
    · rw [same, work] at mentioned
      rcases List.mem_cons.mp mentioned with first | last
      · exact Or.inl first
      · exact Or.inr (List.mem_cons.mpr (Or.inl (List.mem_singleton.mp last)))
    · rw [List.mem_singleton.mp later, workPart] at mentioned
      rcases List.mem_cons.mp mentioned with first | last
      · exact Or.inl first
      · exact Or.inr (List.mem_cons_of_mem _ last)
  · cases member

theorem bindings_aliases {schema : Schema} (plain : schema.IsPlain) {bound : BoundWord}
    {clause : Clause} (member : clause ∈ bound.bindings schema) {name : String}
    (mentioned : name ∈ clause.formula.aliases) :
    name = "w0" ∨ name = wordAlias bound.index ∨
      (name = partAlias bound.index ∧ bound.needsJoin = true) := by
  rcases List.mem_append.mp member with chain | join
  · split at chain
    · cases chain
    · rw [List.mem_singleton.mp chain, binding_aliases, (path_wordAlias bound.index).2,
        (path_successor plain bound.index).2] at mentioned
      rcases List.mem_append.mp mentioned with own | first
      · exact Or.inr (Or.inl (List.mem_singleton.mp own))
      · exact Or.inl (List.mem_singleton.mp first)
  · split at join
    · rename_i joins
      rw [List.mem_singleton.mp join, binding_aliases, (path_partWord bound.index).2,
        (path_wordAlias bound.index).2] at mentioned
      rcases List.mem_append.mp mentioned with part | own
      · exact Or.inr (Or.inr ⟨List.mem_singleton.mp part, joins⟩)
      · exact Or.inr (Or.inl (List.mem_singleton.mp own))
    · cases join

theorem result_aliases {name : String}
    (mentioned : name ∈ (Store.Value.path shape.result).aliases) :
    name = "w0" ∨ name ∈ shape.workNames := by
  cases shape with
  | wordId => exact Or.inl (List.mem_singleton.mp mentioned)
  | fullWord => exact Or.inl (List.mem_singleton.mp mentioned)
  | distinctWork => exact Or.inr (List.mem_cons.mpr (Or.inl (List.mem_singleton.mp mentioned)))
  | distinctWorkPart => exact Or.inr (List.mem_cons_of_mem _ mentioned)

variable [Pattern.Engine]

theorem mentions_term {index : Nat} {term : Term} (formed : term.WellFormed) {condition : Condition}
    (made : term.condition? (compiler.scopeAt shape index) = some condition) {name : String}
    (mentioned : name ∈ condition.formula.aliases) : Mentions shape index term.needsJoin name := by
  rcases Term.asksFor_of_condition? formed made with ⟨inner, asks, same⟩
  have within : name ∈ inner.formula.aliases := by
    rcases same with same | same <;> rw [same] at mentioned
    · exact mentioned
    · rw [Condition.formula, Store.Formula.aliases_group, Store.aliasesOf] at mentioned
      simpa using mentioned
  have start := asks.aliases within
  rw [(Scope.dotted_field (isName_scopeAt index) term.attr).2, Scope.path] at start
  rcases (compiler.scopeAt shape index).root_cases term.attr.entity with ⟨first, more, root, _⟩
  rw [root] at start
  have filled : term.isEmpty = false := by
    cases empty : term.isEmpty with
    | false => rfl
    | true =>
        rw [Term.condition?, empty] at made
        cases made
  have joins : term.needsJoin = term.attr.entity.needsJoin := by
    rw [Term.needsJoin, filled]
    rfl
  rw [joins, List.mem_singleton.mp start]
  exact mentions_root root

theorem mentions_position {index : Nat} {word : WordPosition}
    (formed : forall term, term ∈ word.terms -> term.WellFormed) {alternatives : Disjunction}
    (made : word.condition? (compiler.scopeAt shape index) = some alternatives) {name : String}
    (mentioned : name ∈ (Clause.constraint alternatives).formula.aliases) :
    Mentions shape index word.needsJoin name := by
  rcases Store.Formula.mem_aliases_either.mp mentioned with ⟨formulas, among, formula, member, here⟩
  rcases List.mem_map.mp among with ⟨conditions, within, same⟩
  rw [<- same] at member
  rcases List.mem_map.mp member with ⟨condition, inside, read⟩
  rw [<- read] at here
  rcases WordPosition.exists_term_of_mem made within inside with ⟨set, ofWord, term, ofSet, tested⟩
  have allowed :=
    mentions_term (formed term (List.mem_flatMap.mpr ⟨set, ofWord, ofSet⟩)) tested here
  have joins : term.needsJoin = true -> word.needsJoin = true := by
    intro needed
    exact List.any_eq_true.mpr ⟨set, ofWord, List.any_eq_true.mpr ⟨term, ofSet, needed⟩⟩
  rcases allowed with own | ⟨part, needed⟩ | work
  · exact Or.inl own
  · exact Or.inr (Or.inl ⟨part, joins needed⟩)
  · exact Or.inr (Or.inr work)

/-- A position that takes part mentions only what the sources bind. -/
theorem Mentions.mem_names {phrase : Phrase} {bound : BoundWord} {name : String}
    (among : bound ∈ compiler.boundWords shape phrase)
    (mentions : Mentions shape bound.index bound.needsJoin name) :
    name ∈ (compiler.selection shape none phrase).sources.map Source.name := by
  rcases mentions with own | ⟨part, joins⟩ | ⟨work, _⟩
  · rw [own]
    exact wordAlias_mem_names among
  · rw [part]
    exact Compiler.mem_names.mpr (Or.inl (Or.inr (partAlias_mem among joins)))
  · exact Compiler.mem_names.mpr (Or.inr work)

/-- Every alias in a clause is bound. -/
theorem clause_aliases_bound (plain : compiler.schema.IsPlain) {phrase : Phrase}
    (formed : phrase.WellFormed) {clause : Clause}
    (member : clause ∈ (compiler.selection shape none phrase).clauses) {name : String}
    (mentioned : name ∈ clause.formula.aliases) :
    name ∈ (compiler.selection shape none phrase).sources.map Source.name := by
  -- Works come first, then how the words hang together, then what each position asks for.
  rcases List.mem_append.mp member with bindings | constraint
  · rcases List.mem_append.mp bindings with outer | inner
    · rcases workBindings_aliases outer mentioned with first | work
      · rw [first]
        exact compiler.first_mem_names shape phrase
      · exact mem_names.mpr (Or.inr work)
    · rcases List.mem_flatMap.mp inner with ⟨bound, among, within⟩
      rcases bindings_aliases plain within mentioned with first | own | part
      · rw [first]
        exact compiler.first_mem_names shape phrase
      · exact Mentions.mem_names among (Or.inl own)
      · exact Mentions.mem_names among (Or.inr (Or.inl part))
  · rcases List.mem_flatMap.mp constraint with ⟨bound, among, within⟩
    rcases mem_boundWords.mp among with ⟨index, word, found, same, _⟩
    rcases List.mem_map.mp within with ⟨alternatives, asked, made⟩
    rw [<- made] at mentioned
    rw [same] at asked
    have mentions := mentions_position (formed word (List.mem_of_getElem? found))
      (Option.mem_toList.mp asked) mentioned
    refine Mentions.mem_names among ?_
    rw [same]
    exact mentions

theorem compileFrom_getElem? (compiler : Compiler) (shape : ResultShape) (filter : Option String)
    (phrases : List Phrase) (start number : Nat) :
    (compiler.compileFrom shape filter start phrases)[number]? =
      phrases[number]?.map fun phrase =>
        compiler.compilePhrase (start + number) phrase shape filter := by
  induction phrases generalizing start number with
  | nil => rfl
  | cons phrase rest ih =>
      cases number with
      | zero => rfl
      | succ number =>
          rw [compileFrom, List.getElem?_cons_succ, ih, List.getElem?_cons_succ,
            Nat.add_right_comm, Nat.add_assoc]

end Compiler

/-! ## Fragments -/

namespace Fragment

/-- The sources of the statement that a fragment is read as bind exactly the
aliases listed with it, and the statement mentions no others. -/
structure Scoped (fragment : Fragment) (statement : Store.Statement) : Prop where
  distinct : (statement.sources.map Source.name).Nodup
  exactly : (statement.sources.map Source.name).Perm
    (fragment.wordAliases ++ fragment.partAliases ++ fragment.shape.workNames)
  first : "w0" ∈ statement.sources.map Source.name
  bound : forall name, name ∈ statement.aliases -> name ∈ statement.sources.map Source.name

/-- The aliases that a position of a fragment may mention. -/
def Allows (fragment : Fragment) (index : Nat) (name : String) : Prop :=
  name = wordAlias index ∨ (name = partAlias index ∧ name ∈ fragment.partAliases) ∨
    (name ∈ fragment.shape.workNames ∧ index = 0)

end Fragment

namespace Compiler

variable {compiler : Compiler} {shape : ResultShape}

section AnyEngine

variable [Pattern.Engine]

theorem scoped_phrase (plain : compiler.schema.IsPlain) {phrase : Phrase}
    (formed : phrase.WellFormed) (number : Nat) :
    (compiler.compilePhrase number phrase shape none).Scoped
      (compiler.selection shape none phrase).statement := by
  refine ⟨compiler.nodup_names shape phrase, compiler.names_perm shape phrase,
    compiler.first_mem_names shape phrase, ?_⟩
  intro name mentioned
  rcases List.mem_append.mp mentioned with selected | conditioned
  · rcases result_aliases selected with first | work
    · rw [first]
      exact compiler.first_mem_names shape phrase
    · exact mem_names.mpr (Or.inr work)
  · rcases List.mem_flatMap.mp conditioned with ⟨conditions, among, within⟩
    rw [List.mem_singleton.mp among] at within
    rcases List.mem_flatMap.mp within with ⟨formula, member, here⟩
    rcases List.mem_map.mp member with ⟨clause, inside, same⟩
    rw [<- same] at here
    exact clause_aliases_bound plain formed inside here

theorem allows_position {phrase : Phrase} {index : Nat} {word : WordPosition}
    (found : phrase.words[index]? = some word) (number : Nat) {name : String}
    (mentions : Mentions shape index word.needsJoin name) :
    (compiler.compilePhrase number phrase shape none).Allows index name := by
  rcases mentions with own | ⟨part, joins⟩ | work
  · exact Or.inl own
  · refine Or.inr (Or.inl ⟨part, ?_⟩)
    have busy : (compiler.boundAt shape index word).isIdle = false := by
      rw [BoundWord.isIdle, boundAt, joins, Bool.not_true, Bool.and_false]
    have listed : partAlias (compiler.boundAt shape index word).index ∈
        BoundWord.partAliases (compiler.boundWords shape phrase) :=
      partAlias_mem (mem_boundWords.mpr ⟨index, word, found, rfl, busy⟩) joins
    rw [part]
    exact listed
  · exact Or.inr (Or.inr work)

/-- Aliases are scoped.  Every fragment is read as a statement whose sources bind
distinct aliases, exactly those listed with the fragment and the works that the
shape binds, and which mentions no other alias.  What a position asks for is read
as mentioning only the position's own word, its part if the fragment lists it,
and bound works at the first position. -/
theorem compile_scoped {text : String} {query : Query} (accepted : Query.parse text = .ok query)
    (plain : compiler.schema.IsPlain) (shape : ResultShape) {number : Nat} {fragment : Fragment}
    (made : (compiler.compile query shape none)[number]? = some fragment) :
    (Exists fun statement => Store.read? fragment.text = some statement ∧
        fragment.Scoped statement) ∧
      Exists fun phrase => query.phrases[number]? = some phrase ∧
        forall (index : Nat) (word : WordPosition), phrase.words[index]? = some word ->
          let predicate := word.predicate (compiler.scopeAt shape index)
          predicate = "" ∨ Exists fun alternatives =>
            Store.readCondition? predicate = some alternatives ∧
              forall name, name ∈ Store.aliasesOf alternatives -> fragment.Allows index name := by
  rw [compile, compileFrom_getElem?] at made
  rcases Option.map_eq_some_iff.mp made with ⟨phrase, ofQuery, same⟩
  have formed := Phrase.wellFormed_of_parse accepted (List.mem_of_getElem? ofQuery)
  rw [<- same]
  refine ⟨⟨_, Selection.read?_render (plain_selection plain formed), scoped_phrase plain formed _⟩,
    phrase, ofQuery, ?_⟩
  intro index word found
  cases condition : word.condition? (compiler.scopeAt shape index) with
  | none =>
      left
      rw [WordPosition.predicate, condition]
      rfl
  | some alternatives =>
      right
      have terms := formed word (List.mem_of_getElem? found)
      refine ⟨_, WordPosition.readCondition?_predicate terms (isName_scopeAt index) condition, ?_⟩
      intro name mentioned
      have within : name ∈ (Clause.constraint alternatives).formula.aliases := by
        simpa [Store.aliasesOf] using mentioned
      exact allows_position found _ (mentions_position terms condition within)

end AnyEngine

/-- A work tested through its bound name, a position left out, and a word part
joined at the last position. -/
theorem compile_scoped_of_works :
    let query : Query :=
      ⟨⟨⟨⟨⟨.authorName, "x", false, false⟩, []⟩, []⟩,
        [⟨⟨⟨.spelling, "", false, false⟩, []⟩, []⟩, ⟨⟨⟨.headword, "y", false, false⟩, []⟩, []⟩]⟩, []⟩
    let fragment : Fragment :=
      ⟨0, .distinctWork, ["w0", "w2"], ["wp2"],
        "select distinct work from Work work, WorkPart workPart, Word w0, Word w2, WordPart wp2 " ++
          "where w0.work = work and w0.workPart = workPart and w2 = w0.next.next and " ++
          "wp2.word = w2 and ((work.author.name = 'x')) and " ++
          "((wp2.lemPos.lemma.tagInsensitive.string = 'y'))"⟩
    Query.parse "aut(x)$spe()$lem(y)" = .ok query ∧
      (Compiler.compile {} query .distinctWork none)[0]? = some fragment ∧
      Exists fun statement => Store.read? fragment.text = some statement ∧
        fragment.Scoped statement := by
  intro query fragment
  have read : (Query.parse "aut(x)$spe()$lem(y)").toOption = some query := by decide +kernel
  have accepted := Query.parse_eq_ok_of_toOption read
  have plain : ({} : Compiler).schema.IsPlain := by constructor <;> decide +kernel
  have made : (Compiler.compile {} query .distinctWork none)[0]? = some fragment := by
    decide +kernel
  exact ⟨accepted, made, (compile_scoped accepted plain .distinctWork made).1⟩

end Compiler

end CorpusQuery
