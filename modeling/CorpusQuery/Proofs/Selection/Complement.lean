import CorpusQuery.Pattern.Standard
import CorpusQuery.Proofs.Selection.Verdicts

namespace CorpusQuery

open Store

/-!
# Negated terms

Negation is written in several ways.  An equation takes the other sign, and a list
of codes or a test whether a field is set takes its opposite.  A comparison or a
pattern gets a negation around it.  Where nothing can satisfy the term, its
condition never holds, and that of the negated term is left out.

`Opposed` pairs the conditions up.  A term and its negation always have opposed
conditions, in whichever way the term was built.  What conditions mean has to
respect the pairs, and then negation is the complement.

This is shown for two meanings.  In one, every comparison, match and test of a
field simply comes out true or false, and operands are not looked into.  The other
is the verdict of the store on the written condition, where the negation of the
unknown is unknown.
-/

/-! ## Opposed conditions -/

/-- Each of the conditions denies the other.  Leaving a condition out denies one that
never holds. -/
inductive Opposed : Option Condition -> Option Condition -> Prop where
  | sign (field : String) (operand : Operand) :
      Opposed (some (.compare field .equal operand)) (some (.compare field .notEqual operand))
  | around (condition : Condition) : Opposed (some condition) (some (.negation condition))
  | members (field : String) (operands : List Operand) :
      Opposed (some (.member false field operands)) (some (.member true field operands))
  | unset (field : String) : Opposed (some (.present false field)) (some (.present true field))
  | never : Opposed (some .never) none
  | symm {one other : Option Condition} (opposed : Opposed one other) : Opposed other one

/-! ## Terms -/

namespace Term

/-- The term with the opposite negation. -/
def flipped (term : Term) : Term :=
  { term with negated := !term.negated }

section Signed

variable (attr : Attribute) (text : String) (isPattern : Bool)

/-- The term that is not negated. -/
abbrev affirmed : Term := ⟨attr, text, false, isPattern⟩

abbrev denied : Term := ⟨attr, text, true, isPattern⟩

variable [Pattern.Engine]

theorem opposed_membership (field : String) (codes : List String) (operand : String -> Operand) :
    Opposed ((affirmed attr text isPattern).membership field codes operand)
      ((denied attr text isPattern).membership field codes operand) := by
  have same : (denied attr text isPattern).matchingCodes? codes =
      (affirmed attr text isPattern).matchingCodes? codes := rfl
  rw [membership, membership, same]
  cases (affirmed attr text isPattern).matchingCodes? codes with
  | none => exact .around _
  | some found =>
      cases found with
      | nil => exact .never
      | cons first rest => exact .members field _

/-- Every code of the table is selected by the term or by its negation. -/
theorem contains_denied {codes : List Nat} {code : Nat} (known : code ∈ codes) :
    ((denied attr text isPattern).presenceCodes codes).contains code =
      !((affirmed attr text isPattern).presenceCodes codes).contains code := by
  change (codes.filter fun code =>
    !((affirmed attr text isPattern).presenceCodes codes).contains code).contains code = _
  rw [Bool.eq_iff_iff, List.contains_iff_mem, List.mem_filter]
  exact and_iff_right known

theorem opposed_presence (field : String) {codes : List Nat} (unset : 1 ∈ codes) (set : 0 ∈ codes) :
    Opposed ((affirmed attr text isPattern).presence field codes)
      ((denied attr text isPattern).presence field codes) := by
  rw [presence, presence, contains_denied attr text isPattern unset,
    contains_denied attr text isPattern set]
  cases ((affirmed attr text isPattern).presenceCodes codes).contains 1 <;>
    cases ((affirmed attr text isPattern).presenceCodes codes).contains 0
  · exact .never
  · exact .symm (.unset field)
  · exact .unset field
  · exact .symm .never

theorem opposed_conditionOn (scope : Scope) (field : String) :
    Opposed ((affirmed attr text isPattern).conditionOn scope field)
      ((denied attr text isPattern).conditionOn scope field) := by
  unfold conditionOn
  cases domain : attr.domain with
  | numeric => exact .around _
  | presence table =>
      rw [Attribute.table_of_presence domain]
      exact opposed_presence attr text isPattern field (by decide) (by decide)
  | categorical table =>
      cases isPattern with
      | false => exact .sign field (.code text)
      | true => exact opposed_membership attr text true field _ _
  | externalCodes =>
      cases isPattern with
      | false => exact .sign field (.literal text)
      | true =>
          cases scope.tags.isEmpty with
          | false => exact opposed_membership attr text true field _ _
          | true => exact .around _
  | text =>
      cases isPattern with
      | false => exact .sign field (.literal text)
      | true => exact .around _

end Signed

theorem opposed_flipped [Pattern.Engine] (term : Term) (scope : Scope) (field : String) :
    Opposed (term.conditionOn scope field) (term.flipped.conditionOn scope field) := by
  rcases term with ⟨attr, text, negated, isPattern⟩
  cases negated with
  | false => exact opposed_conditionOn attr text isPattern scope field
  | true => exact .symm (opposed_conditionOn attr text isPattern scope field)

end Term

/-! ## Two truth values -/

/-- What each comparison, match and test of a field comes out as.  The two signs of
an equation are opposite. -/
structure Valuation where
  compares : String -> Relation -> Operand -> Bool
  finds (field pattern : String) : Bool
  isSet (field : String) : Bool
  unequal : forall field operand,
    compares field .notEqual operand = !compares field .equal operand

namespace Valuation

/-- The valuation that an order of fields and operands gives. -/
def ofOrder (order : String -> Operand -> Ordering) (finds : String -> String -> Bool)
    (isSet : String -> Bool) : Valuation where
  compares field relation operand := relates relation (order field operand)
  finds := finds
  isSet := isSet
  unequal field operand := by cases order field operand <;> rfl

def truth (valuation : Valuation) : Condition -> Bool
  | .compare field relation operand => valuation.compares field relation operand
  | .matching field pattern => valuation.finds field pattern
  | .member negated field operands =>
    (operands.any fun operand => valuation.compares field .equal operand) != negated
  | .present expected field => valuation.isSet field == expected
  | .never => false
  | .negation condition => !valuation.truth condition

/-- A condition that is left out holds. -/
def holds (valuation : Valuation) (condition? : Option Condition) : Bool :=
  condition?.all valuation.truth

theorem holds_opposed (valuation : Valuation) {one other : Option Condition}
    (opposed : Opposed one other) : valuation.holds other = !valuation.holds one := by
  induction opposed with
  | sign field operand => exact valuation.unequal field operand
  | around condition => rfl
  | members field operands => simp [holds, truth]
  | unset field => simp [holds, truth]
  | never => rfl
  | symm opposed ih => rw [ih, Bool.not_not]

end Valuation

/-! ## Verdicts -/

variable {Object : Type} [DecidableEq Object]

namespace Store

theorem Truth.negateIf_negateIf (truth : Truth) :
    (truth.negateIf true).negateIf true = truth := by
  rcases truth with _ | _ | _ <;> rfl

theorem Datum.compare_notEqual (datum other : Datum Object) :
    datum.compare .notEqual other = (datum.compare .equal other).negateIf true := by
  cases datum <;> cases other <;> simp [compare, relates, Truth.negateIf, bne]

end Store

theorem Opposed.test [Pattern.Engine] {one other : Option Condition} (opposed : Opposed one other)
    (datum : Datum Object) :
    (other.map (Condition.test datum)).getD (some true) =
      ((one.map (Condition.test datum)).getD (some true)).negateIf true := by
  induction opposed with
  | sign field operand => exact datum.compare_notEqual _
  | around condition => rfl
  | members field operands =>
      change Truth.negateIf true _ = Truth.negateIf true (Truth.negateIf false _)
      rw [Truth.negateIf_false]
  | unset field =>
      change some (decide (datum = .null) != true) = Truth.negateIf true (some _)
      cases decide (datum = .null) <;> rfl
  | never => rfl
  | symm opposed ih => rw [ih, Truth.negateIf_negateIf]

/-- A term with text and the same term with its negation flipped are complements: their
conditions have opposite truth values in every valuation, and so do the verdicts on
the written conditions, as long as these can be read. -/
theorem Term.flipped_complements [Pattern.Engine] (term : Term)
    (filled : term.isEmpty = false) (scope : Scope) :
    (forall valuation : Valuation, valuation.holds (term.flipped.condition? scope) =
      !valuation.holds (term.condition? scope)) ∧
    (term.Legible -> isName scope.wordAlias = true ->
      forall (corpus : Corpus Object) (choice : Choice Object),
        Exists fun truth => corpus.verdict? choice (term.predicate scope) = some truth ∧
          corpus.verdict? choice (term.flipped.predicate scope) = some (truth.negateIf true)) := by
  have filled' : ¬ term.isEmpty = true := by rw [filled]; exact Bool.false_ne_true
  have flipped' : ¬ term.flipped.isEmpty = true := filled'
  constructor
  · intro valuation
    rw [condition?, condition?, if_neg filled', if_neg flipped']
    exact valuation.holds_opposed (term.opposed_flipped scope _)
  · intro legible named corpus choice
    refine ⟨_, Term.verdict?_predicate named corpus choice legible, ?_⟩
    have legible' : term.flipped.Legible := legible
    rw [Term.verdict?_predicate named corpus choice legible', test, test, question?, question?,
      if_neg filled', if_neg flipped']
    exact congrArg some ((term.opposed_flipped _ "").test _)

/-- A gender that is no code, and a text that is no pattern.  Nothing has such a
speech, and everything has the opposite. -/
theorem Term.flipped_complements_of_unread :
    let gender : Term := ⟨.speakerGender, "1 or 2", true, false⟩
    let speech : Term := ⟨.narrative, "(", false, true⟩
    let scope := Compiler.scopeAt {} .wordId 0
    let valuation := Valuation.ofOrder (fun _ _ => .lt) (fun _ _ => true) (fun _ => true)
    let corpus := Corpus.single "hate" "vb"
    gender.predicate scope = "w0.speech.gender.gender <> 1 or 2" ∧
      gender.flipped.predicate scope = "w0.speech.gender.gender = 1 or 2" ∧
      valuation.holds (gender.condition? scope) = true ∧
      valuation.holds (gender.flipped.condition? scope) = false ∧
      speech.predicate scope = "1 = 0" ∧ speech.flipped.predicate scope = "" ∧
      Exists fun truth => corpus.verdict? [("w0", 0)] (speech.predicate scope) = some truth ∧
        corpus.verdict? [("w0", 0)] (speech.flipped.predicate scope) =
          some (truth.negateIf true) := by
  intro gender speech scope valuation corpus
  have granted : valuation.holds (gender.condition? scope) = true := by decide +kernel
  have filled : gender.isEmpty = false := by decide +kernel
  have opposite := (@Term.flipped_complements Nat _ _ gender filled scope).1 valuation
  rw [granted] at opposite
  have legible : speech.Legible := fun table domain _ => by cases domain
  have named : isName scope.wordAlias = true := Compiler.isName_scopeAt 0
  exact ⟨by decide +kernel, by decide +kernel, granted, opposite, by decide +kernel,
    by decide +kernel,
    (speech.flipped_complements (by decide +kernel) scope).2 legible named corpus [("w0", 0)]⟩

end CorpusQuery
