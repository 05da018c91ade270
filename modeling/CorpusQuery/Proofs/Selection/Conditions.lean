import CorpusQuery.Proofs.Query.Terms
import CorpusQuery.Selection.Condition

namespace CorpusQuery
namespace Term

/-!
# Conditions of terms

A term that was read has one of a few conditions, by the domain of its attribute
and by whether it is a pattern.  Nothing is left of the cases that are there for
terms built in another way: a number always compares as a number, and a pattern
on known codes is always tried on them.
-/

variable [Pattern.Engine]

/-- The codes that the pattern of a term is found in. -/
def codesFound (term : Term) (codes : List String) : List String :=
  codes.filter fun code => (Pattern.compile? term.text).any fun pattern => pattern.occursIn code

/-- The texts that the condition of a term quotes. -/
def literals (term : Term) (tags : TagSet) : List String :=
  match term.attr.domain with
  | .text => [term.text]
  | .externalCodes =>
    if term.isPattern && !tags.isEmpty then term.codesFound tags.codes else [term.text]
  | .numeric | .categorical _ | .presence _ => []

/-- A term in free text that is not tried on known codes quotes its text. -/
theorem literals_of_free {term : Term} (free : term.attr.IsFree) {tags : TagSet}
    (untried : term.attr.domain = .text ∨ (term.isPattern && !tags.isEmpty) = false) :
    term.literals tags = [term.text] := by
  rw [literals]
  rcases free with domain | domain <;> rw [domain]
  rcases untried with text | untried
  · rw [domain] at text
    cases text
  · change (if _ then _ else _) = _
    rw [untried]
    rfl

theorem literals_of_tried {term : Term} (domain : term.attr.domain = .externalCodes) {tags : TagSet}
    (tried : (term.isPattern && !tags.isEmpty) = true) :
    term.literals tags = term.codesFound tags.codes := by
  rw [literals, domain]
  change (if _ then _ else _) = _
  rw [if_pos tried]

/-- The conditions that a term can have, apart from a negation around them. -/
inductive Asks (term : Term) (scope : Scope) : Condition -> Prop where
  | number {relation : Relation} {value : Int} (domain : term.attr.domain = .numeric)
      (split : splitComparison? term.text = some (relation, value)) :
      Asks term scope (.compare (scope.field term.attr) relation (.integer value))
  | code {table : List LetterCode} {entry : LetterCode}
      (domain : term.attr.domain = .categorical table) (known : entry ∈ table)
      (coded : term.text = Nat.repr entry.code) :
      Asks term scope (term.equality (scope.field term.attr) (.code term.text))
  | literal (free : term.attr.IsFree) (literal : term.isPattern = false) :
      Asks term scope (term.equality (scope.field term.attr) (.literal term.text))
  | found (free : term.attr.IsFree) (pattern : term.isPattern = true)
      (untried : term.attr.domain = .text ∨ scope.tags.isEmpty = true) :
      Asks term scope (.matching (scope.field term.attr) term.text)
  | codes {table : List LetterCode} (domain : term.attr.domain = .categorical table)
      (some : term.codesFound (table.map fun entry => Nat.repr entry.code) ≠ []) :
      Asks term scope (.member term.negated (scope.field term.attr)
        ((term.codesFound (table.map fun entry => Nat.repr entry.code)).map .code))
  | tags (domain : term.attr.domain = .externalCodes)
      (tried : (term.isPattern && !scope.tags.isEmpty) = true)
      (some : term.codesFound scope.tags.codes ≠ []) :
      Asks term scope (.member term.negated (scope.field term.attr)
        ((term.codesFound scope.tags.codes).map .literal))
  | present {table : List LetterCode} (domain : term.attr.domain = .presence table)
      (expected : Bool) : Asks term scope (.present expected (scope.field term.attr))
  | never (none : term.literals scope.tags = []) : Asks term scope .never

/-- The condition is one that the term can have, with or without a negation. -/
def AsksFor (term : Term) (scope : Scope) (condition : Condition) : Prop :=
  Exists fun inner => term.Asks scope inner ∧ (condition = inner ∨ condition = .negation inner)

theorem Asks.asksFor {term : Term} {scope : Scope} {inner condition : Condition}
    (asks : term.Asks scope inner) (same : condition = inner) : term.AsksFor scope condition :=
  ⟨inner, asks, Or.inl same⟩

theorem Asks.negateIf {term : Term} {scope : Scope} {inner : Condition}
    (asks : term.Asks scope inner) (negated : Bool) :
    term.AsksFor scope (Condition.negateIf negated inner) := by
  cases negated with
  | false => exact ⟨inner, asks, Or.inl rfl⟩
  | true => exact ⟨inner, asks, Or.inr rfl⟩

theorem membership_cases {term : Term} (valid : Pattern.isValid term.text = true) {field : String}
    {codes : List String} {operand : String -> Operand} {condition : Condition}
    (made : term.membership field codes operand = some condition) :
    (term.codesFound codes = [] ∧ condition = .never) ∨
      (term.codesFound codes ≠ [] ∧
        condition = .member term.negated field ((term.codesFound codes).map operand)) := by
  rcases Option.isSome_iff_exists.mp valid with ⟨pattern, compiled⟩
  have tried : term.matchingCodes? codes = some (term.codesFound codes) := by
    rw [matchingCodes?, codesFound, compiled]
    rfl
  rw [membership, tried] at made
  cases found : term.codesFound codes with
  | nil =>
      rw [found] at made
      cases negated : term.negated <;> simp [negated] at made
      exact Or.inl ⟨rfl, made.symm⟩
  | cons first more =>
      rw [found] at made
      exact Or.inr ⟨List.cons_ne_nil first more, (Option.some.inj made).symm⟩

theorem presence_cases {term : Term} {field : String} {codes : List Nat} {condition : Condition}
    (made : term.presence field codes = some condition) :
    condition = .never ∨ Exists fun expected => condition = .present expected field := by
  unfold presence at made
  cases unset : (term.presenceCodes codes).contains 1 <;>
    cases set : (term.presenceCodes codes).contains 0 <;> simp only [unset, set] at made
  · exact Or.inl (Option.some.inj made).symm
  · exact Or.inr ⟨true, (Option.some.inj made).symm⟩
  · exact Or.inr ⟨false, (Option.some.inj made).symm⟩
  · cases made

theorem asksFor_numeric {term : Term} (domain : term.attr.domain = .numeric)
    (formed : term.WellFormed) (scope : Scope) :
    term.AsksFor scope (term.comparison (scope.field term.attr)) := by
  rw [WellFormed, domain] at formed
  rcases Option.isSome_iff_exists.mp formed.2.2 with ⟨⟨relation, value⟩, split⟩
  rw [comparison, split]
  exact (Asks.number domain split).negateIf term.negated

theorem asksFor_categorical {term : Term} {table : List LetterCode}
    (domain : term.attr.domain = .categorical table) (formed : term.WellFormed) {scope : Scope}
    {condition : Condition}
    (made : term.conditionOn scope (scope.field term.attr) = some condition) :
    term.AsksFor scope condition := by
  have none : term.literals scope.tags = [] := by rw [literals, domain]
  rw [conditionOn, domain] at made
  rw [WellFormed, domain] at formed
  cases pattern : term.isPattern <;> simp only [pattern] at made formed
  · rcases formed with ⟨entry, known, coded⟩
    exact (Asks.code domain known coded).asksFor (Option.some.inj made).symm
  · rcases membership_cases formed.2.1 made with ⟨_, never⟩ | ⟨some, member⟩
    · exact (Asks.never none).asksFor never
    · exact (Asks.codes domain some).asksFor member

theorem asksFor_external {term : Term} (domain : term.attr.domain = .externalCodes)
    (formed : term.WellFormed) {scope : Scope} {condition : Condition}
    (made : term.conditionOn scope (scope.field term.attr) = some condition) :
    term.AsksFor scope condition := by
  have free : term.attr.IsFree := Or.inr domain
  rw [conditionOn, domain] at made
  rw [wellFormed_free free] at formed
  cases pattern : term.isPattern <;> simp only [pattern] at made formed
  · exact (Asks.literal free pattern).asksFor (Option.some.inj made).symm
  · cases untried : scope.tags.isEmpty <;> simp only [untried] at made
    · have tried : (term.isPattern && !scope.tags.isEmpty) = true := by
        rw [pattern, untried]
        rfl
      rcases membership_cases formed.2 made with ⟨nowhere, never⟩ | ⟨some, member⟩
      · exact (Asks.never ((literals_of_tried domain tried).trans nowhere)).asksFor never
      · exact (Asks.tags domain tried some).asksFor member
    · rw [<- Option.some.inj made]
      exact (Asks.found free pattern (Or.inr untried)).negateIf term.negated

theorem asksFor_text {term : Term} (domain : term.attr.domain = .text) {scope : Scope}
    {condition : Condition}
    (made : term.conditionOn scope (scope.field term.attr) = some condition) :
    term.AsksFor scope condition := by
  have free : term.attr.IsFree := Or.inl domain
  rw [conditionOn, domain] at made
  cases pattern : term.isPattern <;> simp only [pattern] at made
  · exact (Asks.literal free pattern).asksFor (Option.some.inj made).symm
  · rw [<- Option.some.inj made]
    exact (Asks.found free pattern (Or.inl domain)).negateIf term.negated

/-- The condition of a term that was read. -/
theorem asksFor_of_condition? {term : Term} (formed : term.WellFormed) {scope : Scope}
    {condition : Condition} (made : term.condition? scope = some condition) :
    term.AsksFor scope condition := by
  rw [condition?] at made
  split at made
  · cases made
  · cases domain : term.attr.domain with
    | text => exact asksFor_text domain made
    | externalCodes => exact asksFor_external domain formed made
    | categorical table => exact asksFor_categorical domain formed made
    | numeric =>
        rw [conditionOn, domain] at made
        rw [<- Option.some.inj made]
        exact asksFor_numeric domain formed scope
    | presence table =>
        rw [conditionOn, domain] at made
        rcases presence_cases made with never | ⟨expected, present⟩
        · have none : term.literals scope.tags = [] := by rw [literals, domain]
          exact (Asks.never none).asksFor never
        · exact (Asks.present domain expected).asksFor present

end Term
end CorpusQuery
