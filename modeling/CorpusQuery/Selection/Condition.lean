import CorpusQuery.Comparison
import CorpusQuery.Pattern
import CorpusQuery.Query
import CorpusQuery.Selection.Scope
import CorpusQuery.Text.Join
import CorpusQuery.Text.Literal

namespace CorpusQuery

/-!
# Conditions

The condition of a term is built as data and written out afterwards.  A term
that constrains nothing has no condition.

A pattern on an attribute with known codes is not handed to the store: it is
tried on every code, and the condition lists the codes in which it occurs.  If
it occurs in none, nothing can satisfy the term, and everything its negation.
-/

/-- The right side of a comparison. -/
inductive Operand where
  | integer (value : Int)
  /-- A text literal. -/
  | literal (text : String)
  /-- A code, written as it is. -/
  | code (text : String)
  deriving DecidableEq, Repr

inductive Condition where
  | compare (field : String) (relation : Relation) (operand : Operand)
  /-- The store matches the pattern. -/
  | matching (field : String) (pattern : String)
  | member (negated : Bool) (field : String) (operands : List Operand)
  /-- Whether the field is set. -/
  | present (expected : Bool) (field : String)
  /-- Holds nowhere. -/
  | never
  | negation (condition : Condition)
  deriving Repr

namespace Operand

def render : Operand -> String
  | .integer value => Text.integerText value
  | .literal text => Text.quoteLiteral text
  | .code text => text

end Operand

namespace Condition

def render : Condition -> String
  | .compare field relation operand => field ++ " " ++ relation.sign ++ " " ++ operand.render
  | .matching field pattern => "match(" ++ field ++ ", " ++ Text.quoteLiteral pattern ++ ") <> 0"
  | .member negated field operands =>
    field ++ (if negated then " NOT IN (" else " IN (") ++
      Text.join ", " (operands.map Operand.render) ++ ")"
  | .present expected field => field ++ (if expected then " is not null" else " is null")
  | .never => "1 = 0"
  | .negation condition => "NOT (" ++ condition.render ++ ")"

/-- A condition, negated when asked. -/
def negateIf (negated : Bool) (condition : Condition) : Condition :=
  if negated then .negation condition else condition

end Condition

variable [Pattern.Engine]

namespace Term

/-- A numeric comparison.  Text that is none is compared as it stands. -/
def comparison (term : Term) (field : String) : Condition :=
  Condition.negateIf term.negated <|
    match splitComparison? term.text with
    | some (relation, value) => .compare field relation (.integer value)
    | none => .compare field .equal (.literal term.text)

def equality (term : Term) (field : String) (operand : Operand) : Condition :=
  .compare field (if term.negated then .notEqual else .equal) operand

/-- The pattern left to the store. -/
def storeMatch (term : Term) (field : String) : Condition :=
  Condition.negateIf term.negated (.matching field term.text)

/-- The codes in which the pattern occurs, none when the text is no pattern. -/
def matchingCodes? (term : Term) (codes : List String) : Option (List String) :=
  (Pattern.compile? term.text).map fun pattern => codes.filter pattern.occursIn

/-- The pattern tried on known codes. -/
def membership (term : Term) (field : String) (codes : List String) (operand : String -> Operand) :
    Option Condition :=
  match term.matchingCodes? codes with
  | none => some (term.storeMatch field)
  | some [] => if term.negated then none else some .never
  | some found => some (.member term.negated field (found.map operand))

/-- The codes of a table that a presence term selects. -/
def presenceCodes (term : Term) (codes : List Nat) : List Nat :=
  let selected :=
    if term.isPattern then
      match Pattern.compile? term.text with
      | some pattern => codes.filter fun code => pattern.occursIn (Nat.repr code)
      | none => []
    else (Text.byte? term.text.toList).toList
  if term.negated then codes.filter fun code => !selected.contains code else selected

/-- Code 1 selects fields that are not set, code 0 those that are. -/
def presence (term : Term) (field : String) (codes : List Nat) : Option Condition :=
  let selected := term.presenceCodes codes
  match selected.contains 1, selected.contains 0 with
  | true, true => none
  | true, false => some (.present false field)
  | false, true => some (.present true field)
  | false, false => some .never

/-- The condition of a term with text. -/
def conditionOn (term : Term) (scope : Scope) (field : String) : Option Condition :=
  match term.attr.domain with
  | .numeric => some (term.comparison field)
  | .presence table => term.presence field (table.map LetterCode.code)
  | .categorical table =>
    if term.isPattern then
      term.membership field (table.map fun entry => Nat.repr entry.code) .code
    else some (term.equality field (.code term.text))
  | .externalCodes =>
    if term.isPattern then
      if scope.tags.isEmpty then some (term.storeMatch field)
      else term.membership field scope.tags.codes .literal
    else some (term.equality field (.literal term.text))
  | .text =>
    if term.isPattern then some (term.storeMatch field)
    else some (term.equality field (.literal term.text))

/-- The condition of a term at a word position, if it constrains anything. -/
def condition? (term : Term) (scope : Scope) : Option Condition :=
  if term.isEmpty then none else term.conditionOn scope (scope.field term.attr)

end Term

/-- Conditions that must all hold. -/
abbrev Conjunction := List Condition

/-- Alternatives, none of which is empty. -/
abbrev Disjunction := List Conjunction

namespace Condition

def renderAll (conjunction : Conjunction) : String :=
  "(" ++ Text.join " and " (conjunction.map render) ++ ")"

def renderAny (disjunction : Disjunction) : String :=
  "(" ++ Text.join " or " (disjunction.map renderAll) ++ ")"

end Condition

/-- The conditions of a term set, none when it constrains nothing. -/
def TermSet.condition? (set : TermSet) (scope : Scope) : Option Conjunction :=
  match set.terms.filterMap fun term => term.condition? scope with
  | [] => none
  | conditions => some conditions

/-- The alternatives of a word position, none when it constrains nothing.  A
term set without condition is left out. -/
def WordPosition.condition? (word : WordPosition) (scope : Scope) : Option Disjunction :=
  match word.sets.filterMap fun set => set.condition? scope with
  | [] => none
  | alternatives => some alternatives

/-- The written condition of a term, empty when it constrains nothing. -/
def Term.predicate (term : Term) (scope : Scope) : String :=
  ((term.condition? scope).map Condition.render).getD ""

def TermSet.predicate (set : TermSet) (scope : Scope) : String :=
  ((set.condition? scope).map Condition.renderAll).getD ""

def WordPosition.predicate (word : WordPosition) (scope : Scope) : String :=
  ((word.condition? scope).map Condition.renderAny).getD ""

end CorpusQuery
