import CorpusQuery.Proofs.Selection.Positions
import CorpusQuery.Proofs.Selection.Written
import CorpusQuery.Proofs.Store.Evaluation

namespace CorpusQuery

open Store

/-!
# What conditions mean

A term asks one thing about its field, and the scope decides only where that
field is.  So the truth of its condition is that of a test on the datum that the
path of the field leads to, and the truth of what a position asks for is found
from the data of its fields, with no word of aliases and paths.

A term that asks for nothing is left out of its set, and a set without conditions
is left out of its position.
-/

/-! ## Conditions -/

section

variable {Object : Type}

/-- The constant that an operand stands for. -/
def Operand.datum : Operand -> Datum Object
  | .integer value => .number value
  | .literal text => .text text
  | .code text => .number ((Text.integer? text.toList).getD 0)

theorem Operand.value_datum (operand : Operand) (corpus : Corpus Object) (choice : Choice Object) :
    corpus.value choice operand.value = operand.datum := by
  cases operand <;> rfl

end

variable {Object : Type} [DecidableEq Object]

namespace Condition

/-- The same condition about another field. -/
def onField (field : String) : Condition -> Condition
  | .compare _ relation operand => .compare field relation operand
  | .matching _ pattern => .matching field pattern
  | .member negated _ operands => .member negated field operands
  | .present expected _ => .present expected field
  | .never => .never
  | .negation condition => .negation (condition.onField field)

variable [Pattern.Engine]

/-- The truth of a condition when its field holds the datum. -/
def test (datum : Datum Object) : Condition -> Truth
  | .compare _ relation operand => datum.compare relation operand.datum
  | .matching _ pattern => datum.finds pattern
  | .member negated _ operands => datum.member negated (operands.map Operand.datum)
  | .present expected _ => datum.isNull expected
  | .never => some false
  | .negation condition => (condition.test datum).negateIf true

theorem truth_onField (corpus : Corpus Object) (choice : Choice Object) (field : String)
    (condition : Condition) :
    (condition.onField field).formula.truth corpus choice =
      condition.test (corpus.reach choice (dotted field)) := by
  induction condition with
  | compare _ relation operand =>
      rw [onField, formula, Formula.truth, Atom.truth, operand.value_datum, test]
      rfl
  | matching _ pattern => rw [onField, formula, Formula.truth, Atom.truth, test]
  | member negated _ operands =>
      have data : (operands.map Operand.value).map (corpus.value choice) =
          operands.map Operand.datum := by
        rw [List.map_map]
        exact List.map_congr_left fun operand _ => operand.value_datum corpus choice
      rw [onField, formula, Formula.truth, Atom.truth, data, test]
  | present expected _ => rw [onField, formula, Formula.truth, Atom.truth, test]
  | never =>
      rw [onField, formula, Formula.truth, Atom.truth, test]
      rfl
  | negation condition ih =>
      rw [onField, formula, Formula.truth, anyHolds_eq, List.map_singleton, Truth.any_singleton,
        allHold_eq, List.map_singleton, Truth.all_singleton, ih, test]

end Condition

/-! ## Terms -/

namespace Term

theorem onField_negateIf (field : String) (negated : Bool) (condition : Condition) :
    (Condition.negateIf negated condition).onField field =
      Condition.negateIf negated (condition.onField field) := by
  cases negated <;> rfl

theorem onField_comparison (term : Term) (field : String) :
    (term.comparison "").onField field = term.comparison field := by
  unfold comparison
  rw [onField_negateIf]
  split <;> rfl

theorem onField_storeMatch (term : Term) (field : String) :
    (term.storeMatch "").onField field = term.storeMatch field :=
  onField_negateIf field term.negated _

variable [Pattern.Engine]

/-- The condition of a term, but for its field. -/
def question? (term : Term) (tags : TagSet) : Option Condition :=
  if term.isEmpty then none else term.conditionOn ⟨"", 0, .throughWord, tags⟩ ""

theorem onField_membership (term : Term) (field : String) (codes : List String)
    (operand : String -> Operand) :
    (term.membership "" codes operand).map (Condition.onField field) =
      term.membership field codes operand := by
  unfold membership
  split
  · rw [Option.map_some, onField_storeMatch]
  · split <;> rfl
  · rfl

theorem onField_presence (term : Term) (field : String) (codes : List Nat) :
    (term.presence "" codes).map (Condition.onField field) = term.presence field codes := by
  unfold presence
  dsimp only
  split <;> rfl

/-- The field enters the condition of a term in one place. -/
theorem conditionOn_eq (term : Term) (scope : Scope) (field : String) :
    term.conditionOn scope field =
      (term.conditionOn ⟨"", 0, .throughWord, scope.tags⟩ "").map (Condition.onField field) := by
  unfold conditionOn
  cases term.attr.domain with
  | numeric => rw [Option.map_some, onField_comparison]
  | presence table => rw [onField_presence]
  | categorical table =>
      dsimp only
      split
      · rw [onField_membership]
      · rfl
  | externalCodes =>
      dsimp only
      split
      · split
        · rw [Option.map_some, onField_storeMatch]
        · rw [onField_membership]
      · rfl
  | text =>
      dsimp only
      split
      · rw [Option.map_some, onField_storeMatch]
      · rfl

theorem condition?_eq (term : Term) (scope : Scope) :
    term.condition? scope =
      (term.question? scope.tags).map (Condition.onField (scope.field term.attr)) := by
  unfold condition? question?
  split
  · rfl
  · exact term.conditionOn_eq scope _

/-- The truth of what a term asks for, if it asks for anything, when the fields of
attributes hold the data. -/
def test (term : Term) (tags : TagSet) (data : Attribute -> Datum Object) : Option Truth :=
  (term.question? tags).map (Condition.test (data term.attr))

theorem truth_condition? (term : Term) {scope : Scope} (named : isName scope.wordAlias = true)
    (corpus : Corpus Object) (choice : Choice Object) :
    (term.condition? scope).map (fun condition => condition.formula.truth corpus choice) =
      term.test scope.tags fun attr => corpus.reach choice (scope.path attr) := by
  rw [condition?_eq, test, Option.map_map]
  refine Option.map_congr fun condition _ => ?_
  rw [Function.comp_apply, Condition.truth_onField, (Scope.dotted_field named term.attr).2]

end Term

/-! ## Positions -/

variable [Pattern.Engine]

/-- The conjunction of truth values, if there are any. -/
def TermSet.test (set : TermSet) (tags : TagSet) (data : Attribute -> Datum Object) :
    Option Truth :=
  match set.terms.filterMap fun term => term.test tags data with
  | [] => none
  | truths => some (Truth.all truths)

def WordPosition.test (word : WordPosition) (tags : TagSet) (data : Attribute -> Datum Object) :
    Option Truth :=
  match word.sets.filterMap fun set => set.test tags data with
  | [] => none
  | truths => some (Truth.any truths)

theorem TermSet.truth_condition? (set : TermSet) {scope : Scope}
    (named : isName scope.wordAlias = true) (corpus : Corpus Object) (choice : Choice Object) :
    (set.condition? scope).map (fun conditions =>
        allHold corpus choice (conditions.map Condition.formula)) =
      set.test scope.tags fun attr => corpus.reach choice (scope.path attr) := by
  have truths : (set.terms.filterMap fun term =>
        term.test scope.tags fun attr => corpus.reach choice (scope.path attr)) =
      (set.terms.filterMap fun term => term.condition? scope).map fun condition =>
        condition.formula.truth corpus choice := by
    rw [List.map_filterMap]
    exact List.filterMap_congr fun term _ => (term.truth_condition? named corpus choice).symm
  unfold test condition?
  rw [truths]
  cases set.terms.filterMap fun term => term.condition? scope with
  | nil => rfl
  | cons first rest =>
      simp only [Option.map_some, allHold_eq, List.map_map, List.map_cons]
      rfl

namespace Store.Formula

theorem truth_every (conditions : List Formula) (corpus : Corpus Object) (choice : Choice Object) :
    (every conditions).truth corpus choice = allHold corpus choice conditions := by
  rw [every, truth, Truth.negateIf_false, anyHolds_eq, List.map_singleton, Truth.any_singleton]

theorem truth_either (alternatives : List (List Formula)) (corpus : Corpus Object)
    (choice : Choice Object) :
    (either alternatives).truth corpus choice = anyHolds corpus choice alternatives := by
  rw [either, truth, Truth.negateIf_false, anyHolds_eq, anyHolds_eq, List.map_map]
  refine congrArg Truth.any (List.map_congr_left fun conditions _ => ?_)
  rw [Function.comp_apply, allHold_eq, List.map_singleton, Truth.all_singleton, truth_every]

end Store.Formula

theorem WordPosition.truth_condition? (word : WordPosition) {scope : Scope}
    (named : isName scope.wordAlias = true) (corpus : Corpus Object) (choice : Choice Object) :
    (word.condition? scope).map (fun alternatives =>
        (Clause.constraint alternatives).formula.truth corpus choice) =
      word.test scope.tags fun attr => corpus.reach choice (scope.path attr) := by
  have truths : (word.sets.filterMap fun set =>
        set.test scope.tags fun attr => corpus.reach choice (scope.path attr)) =
      (word.sets.filterMap fun set => set.condition? scope).map fun conditions =>
        allHold corpus choice (conditions.map Condition.formula) := by
    rw [List.map_filterMap]
    exact List.filterMap_congr fun set _ => (set.truth_condition? named corpus choice).symm
  unfold test condition?
  rw [truths]
  cases word.sets.filterMap fun set => set.condition? scope with
  | nil => rfl
  | cons first rest =>
      simp only [Option.map_some, Clause.formula, Formula.truth_either, anyHolds_eq, List.map_map,
        List.map_cons]
      rfl

end CorpusQuery
