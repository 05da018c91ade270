import CorpusQuery.Pattern
import CorpusQuery.Proofs.Store.Statement
import Mathlib.Data.List.Dedup

namespace CorpusQuery
namespace Store

/-!
# What statements return

A corpus holds the objects of every entity and their properties.  A property may
be unset, lead to another object, or be a number or a text.  A statement is
evaluated by letting each alias range over the objects of its entity, keeping the
choices that satisfy its alternatives, and following the path of the result.

Truth has a third value.  Comparing anything with an unset property is unknown,
and a choice is kept only when the alternatives are known to hold.  Patterns are
searched for with the engine that also reads the queries, whichever it is.
-/

/-! ## Corpora -/

inductive Datum (Object : Type) where
  /-- The property is unset. -/
  | null
  | object (target : Object)
  | number (value : Int)
  | text (content : String)
  deriving DecidableEq, Repr

structure Corpus (Object : Type) where
  /-- The objects of an entity. -/
  extent : String -> List Object
  property : Object -> String -> Datum Object

/-- An object for each alias. -/
abbrev Choice (Object : Type) := List (String × Object)

variable {Object : Type}

namespace Corpus

/-- Follow properties from one object to the next.  Only objects have any. -/
def follow (corpus : Corpus Object) : Datum Object -> List String -> Datum Object
  | datum, [] => datum
  | .object target, name :: rest => corpus.follow (corpus.property target name) rest
  | .null, _ :: _ | .number _, _ :: _ | .text _, _ :: _ => .null

/-- Where a path leads from the object of its alias. -/
def reach (corpus : Corpus Object) (choice : Choice Object) : List String -> Datum Object
  | [] => .null
  | name :: rest =>
    match choice.lookup name with
    | some target => corpus.follow (.object target) rest
    | none => .null

def value (corpus : Corpus Object) (choice : Choice Object) : Value -> Datum Object
  | .path names => corpus.reach choice names
  | .number value => .number value
  | .text text => .text text

end Corpus

/-! ## Truth -/

/-- A truth value, none being unknown. -/
abbrev Truth := Option Bool

namespace Truth

def negateIf (negated : Bool) (truth : Truth) : Truth :=
  truth.map fun holds => holds != negated

def both : Truth -> Truth -> Truth
  | some true, other => other
  | some false, _ => some false
  | none, some false => some false
  | none, _ => none

def either : Truth -> Truth -> Truth
  | some false, other => other
  | some true, _ => some true
  | none, some true => some true
  | none, _ => none

def all (truths : List Truth) : Truth :=
  truths.foldr both (some true)

def any (truths : List Truth) : Truth :=
  truths.foldr either (some false)

theorem both_eq_true {one other : Truth} :
    both one other = some true <-> one = some true ∧ other = some true := by
  rcases one with _ | _ | _ <;> rcases other with _ | _ | _ <;> decide

theorem all_eq_true {truths : List Truth} :
    all truths = some true <-> forall truth, truth ∈ truths -> truth = some true := by
  induction truths with
  | nil => exact ⟨fun _ truth impossible => absurd impossible List.not_mem_nil, fun _ => rfl⟩
  | cons first rest ih =>
      rw [all, List.foldr_cons, both_eq_true, List.forall_mem_cons]
      exact and_congr_right fun _ => ih

theorem negateIf_false (truth : Truth) : truth.negateIf false = truth := by
  rcases truth with _ | _ | _ <;> rfl

theorem all_singleton (truth : Truth) : all [truth] = truth := by
  rcases truth with _ | _ | _ <;> rfl

theorem any_singleton (truth : Truth) : any [truth] = truth := by
  rcases truth with _ | _ | _ <;> rfl

end Truth

/-! ## Conditions -/

/-- Whether a relation holds of values in the given order. -/
def relates : Relation -> Ordering -> Bool
  | .equal, order => order == .eq
  | .notEqual, order => order != .eq
  | .less, order => order == .lt
  | .lessOrEqual, order => order != .gt
  | .greater, order => order == .gt
  | .greaterOrEqual, order => order != .lt

namespace Datum

variable [DecidableEq Object]

/-- Numbers and texts are ordered.  Other data are the same or not, and data of
different kinds never are. -/
def compare : Datum Object -> Relation -> Datum Object -> Truth
  | .null, _, _ | _, _, .null => none
  | .number left, relation, .number right => some (relates relation (Ord.compare left right))
  | .text left, relation, .text right => some (relates relation (Ord.compare left right))
  | left, .equal, right => some (left = right)
  | left, .notEqual, right => some (left ≠ right)
  | _, _, _ => none

def member (negated : Bool) (datum : Datum Object) (values : List (Datum Object)) : Truth :=
  (Truth.any (values.map fun value => datum.compare .equal value)).negateIf negated

/-- Whether the property is unset, or set if negated. -/
def isNull (negated : Bool) (datum : Datum Object) : Truth :=
  some (decide (datum = .null) != negated)

/-- Whether a pattern is found in a text. -/
def finds [Pattern.Engine] (pattern : String) : Datum Object -> Truth
  | .text content => (Pattern.compile? pattern).map fun pattern => pattern.occursIn content
  | .null | .object _ | .number _ => none

theorem compare_equal_object {datum : Datum Object} {target : Object} :
    datum.compare .equal (.object target) = some true <-> datum = .object target := by
  cases datum with
  | null => simp [compare]
  | object other => simp [compare]
  | number value => simp [compare]
  | text content => simp [compare]

end Datum

section Truth

variable [Pattern.Engine] [DecidableEq Object] (corpus : Corpus Object) (choice : Choice Object)

def Atom.truth : Atom -> Truth
  | .compare left relation right =>
    (corpus.value choice left).compare relation (corpus.value choice right)
  | .member negated path values =>
    (corpus.reach choice path).member negated (values.map (corpus.value choice))
  | .null negated path => (corpus.reach choice path).isNull negated
  | .found path pattern => (corpus.reach choice path).finds pattern

mutual

def Formula.truth : Formula -> Truth
  | .atom single => single.truth corpus choice
  | .group negated alternatives => (anyHolds alternatives).negateIf negated

/-- Whether all conditions of one of the alternatives hold. -/
def anyHolds : List (List Formula) -> Truth
  | [] => some false
  | conditions :: rest => (allHold conditions).either (anyHolds rest)

def allHold : List Formula -> Truth
  | [] => some true
  | condition :: rest => (condition.truth).both (allHold rest)

end

theorem allHold_eq (conditions : List Formula) :
    allHold corpus choice conditions =
      Truth.all (conditions.map fun condition => condition.truth corpus choice) := by
  induction conditions with
  | nil => rw [allHold]; rfl
  | cons first rest ih =>
      rw [allHold, ih]
      rfl

theorem anyHolds_eq (alternatives : List (List Formula)) :
    anyHolds corpus choice alternatives =
      Truth.any (alternatives.map fun conditions => allHold corpus choice conditions) := by
  induction alternatives with
  | nil => rw [anyHolds]; rfl
  | cons first rest ih =>
      rw [anyHolds, ih]
      rfl

end Truth

/-! ## Statements -/

namespace Corpus

/-- Every way to choose objects for the aliases of some sources. -/
def choices (corpus : Corpus Object) : List Source -> List (Choice Object)
  | [] => [[]]
  | source :: rest =>
    (corpus.extent source.entity).flatMap fun target =>
      (corpus.choices rest).map fun choice => (source.name, target) :: choice

theorem mem_choices_cons {corpus : Corpus Object} {source : Source} {rest : List Source}
    {choice : Choice Object} :
    choice ∈ corpus.choices (source :: rest) <->
      Exists fun target => target ∈ corpus.extent source.entity ∧ Exists fun others =>
        others ∈ corpus.choices rest ∧ choice = (source.name, target) :: others := by
  simp only [choices, List.mem_flatMap, List.mem_map, @eq_comm _ choice]

variable [Pattern.Engine] [DecidableEq Object]

/-- The choices that a statement keeps. -/
def kept (corpus : Corpus Object) (statement : Statement) : List (Choice Object) :=
  (corpus.choices statement.sources).filter fun choice =>
    anyHolds corpus choice statement.alternatives = some true

/-- What a statement returns, row by row. -/
def rows (corpus : Corpus Object) (statement : Statement) : List (Datum Object) :=
  let found := (corpus.kept statement).map fun choice => corpus.reach choice statement.result
  if statement.distinct then found.dedup else found

end Corpus

end Store
end CorpusQuery
