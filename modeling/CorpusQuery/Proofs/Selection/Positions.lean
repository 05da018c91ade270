import CorpusQuery.Selection

namespace CorpusQuery

/-!
# Positions of a phrase

The positions that take part in a selection are those of the phrase that are not
idle, each with its index and what it asks for.  Their indices increase from
zero, since the first position is never idle.
-/

theorem nonempty_eq_some {α : Type} {items result : List α} :
    (if items.isEmpty then none else some items) = some result <->
      result = items ∧ result ≠ [] := by
  cases items with
  | nil => simp +contextual
  | cons first more => simp +contextual [eq_comm]

variable [Pattern.Engine]

theorem TermSet.condition?_eq_some {set : TermSet} {scope : Scope} {conditions : Conjunction} :
    set.condition? scope = some conditions <->
      conditions = (set.terms.filterMap fun term => term.condition? scope) ∧ conditions ≠ [] := by
  rw [<- nonempty_eq_some, condition?]
  cases set.terms.filterMap fun term => term.condition? scope <;> rfl

namespace WordPosition

theorem condition?_eq_some {word : WordPosition} {scope : Scope} {alternatives : Disjunction} :
    word.condition? scope = some alternatives <->
      alternatives = (word.sets.filterMap fun set => set.condition? scope) ∧ alternatives ≠ [] := by
  rw [<- nonempty_eq_some, condition?]
  cases word.sets.filterMap fun set => set.condition? scope <;> rfl

/-- Every condition of a position is that of one of its terms. -/
theorem exists_term_of_mem {word : WordPosition} {scope : Scope} {alternatives : Disjunction}
    (made : word.condition? scope = some alternatives) {conditions : Conjunction}
    (among : conditions ∈ alternatives) {condition : Condition} (member : condition ∈ conditions) :
    Exists fun set => set ∈ word.sets ∧ Exists fun term => term ∈ set.terms ∧
      term.condition? scope = some condition := by
  rw [(condition?_eq_some.mp made).1] at among
  rcases List.mem_filterMap.mp among with ⟨set, within, asked⟩
  rw [(TermSet.condition?_eq_some.mp asked).1] at member
  rcases List.mem_filterMap.mp member with ⟨term, inside, tested⟩
  exact ⟨set, within, term, inside, tested⟩

end WordPosition

namespace Compiler

variable {compiler : Compiler} {shape : ResultShape}

/-- What the position of a phrase contributes. -/
def boundAt (compiler : Compiler) (shape : ResultShape) (index : Nat) (word : WordPosition) :
    BoundWord :=
  ⟨index, word.needsJoin, word.condition? (compiler.scopeAt shape index)⟩

theorem mem_wordsFrom {words : List WordPosition} {start : Nat} {bound : BoundWord} :
    bound ∈ compiler.wordsFrom shape start words <->
      Exists fun offset => Exists fun word => words[offset]? = some word ∧
        bound = compiler.boundAt shape (start + offset) word := by
  induction words generalizing start with
  | nil => simp [wordsFrom]
  | cons first rest ih =>
      rw [wordsFrom, List.mem_cons, ih]
      constructor
      · rintro (same | ⟨offset, word, found, same⟩)
        · exact ⟨0, first, rfl, same⟩
        · refine ⟨offset + 1, word, found, ?_⟩
          rw [same, Nat.add_right_comm, Nat.add_assoc]
      · rintro ⟨offset, word, found, same⟩
        cases offset with
        | zero =>
            cases found
            exact Or.inl same
        | succ offset =>
            refine Or.inr ⟨offset, word, found, ?_⟩
            rw [same, Nat.add_right_comm, Nat.add_assoc]

theorem mem_boundWords {phrase : Phrase} {bound : BoundWord} :
    bound ∈ compiler.boundWords shape phrase <->
      Exists fun index => Exists fun word => phrase.words[index]? = some word ∧
        bound = compiler.boundAt shape index word ∧ bound.isIdle = false := by
  rw [boundWords, List.mem_filter, mem_wordsFrom, Bool.not_eq_true']
  constructor
  · rintro ⟨⟨offset, word, found, same⟩, busy⟩
    rw [Nat.zero_add] at same
    exact ⟨offset, word, found, same, busy⟩
  · rintro ⟨index, word, found, same, busy⟩
    refine ⟨⟨index, word, found, ?_⟩, busy⟩
    rw [same, Nat.zero_add]

/-- The first position takes part in every selection. -/
theorem boundWords_eq_cons (compiler : Compiler) (shape : ResultShape) (phrase : Phrase) :
    Exists fun rest =>
      compiler.boundWords shape phrase = compiler.boundAt shape 0 phrase.first :: rest :=
  ⟨_, List.filter_cons_of_pos rfl⟩

theorem index_increasing (words : List WordPosition) (start : Nat) :
    (compiler.wordsFrom shape start words).Pairwise fun one other => one.index < other.index := by
  induction words generalizing start with
  | nil => exact List.Pairwise.nil
  | cons first rest ih =>
      rw [wordsFrom]
      refine List.pairwise_cons.mpr ⟨?_, ih (start + 1)⟩
      intro bound later
      rcases mem_wordsFrom.mp later with ⟨offset, word, _, same⟩
      rw [same]
      change start < start + 1 + offset
      omega

theorem boundWords_increasing (phrase : Phrase) :
    (compiler.boundWords shape phrase).Pairwise fun one other => one.index < other.index :=
  (index_increasing phrase.words 0).filter _

end Compiler

end CorpusQuery
