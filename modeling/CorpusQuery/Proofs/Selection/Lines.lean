import CorpusQuery.Pattern.Standard
import CorpusQuery.Proofs.Selection.Branches
import CorpusQuery.Selection.Printer

namespace CorpusQuery

/-!
# Fragments on lines

Plain output puts one fragment behind another with line breaks between them.  It
can be cut at its line breaks again if no fragment has one of its own.  A quoted
text of a query may hold line breaks, and a literal keeps them.

The number of line breaks adds up over everything that is written.  All keywords,
names and numbers have none, so a fragment has as many as the literals in it, and
these are the texts that its terms show and the codes that they list.
-/

/-! ## Line breaks -/

namespace Text

/-- The parts of a text between its line breaks. -/
def lines (text : String) : List String :=
  (text.toList.splitOn '\n').map String.ofList

/-- The number of line breaks in a text. -/
def breaks (text : String) : Nat :=
  text.toList.count '\n'

/-- The number of line breaks in several texts. -/
def allBreaks : List String -> Nat
  | [] => 0
  | text :: rest => breaks text + allBreaks rest

theorem breaks_append (one other : String) : breaks (one ++ other) = breaks one + breaks other := by
  rw [breaks, String.toList_append, List.count_append]
  rfl

theorem allBreaks_cons (text : String) (texts : List String) :
    allBreaks (text :: texts) = breaks text + allBreaks texts :=
  rfl

theorem allBreaks_append (one other : List String) :
    allBreaks (one ++ other) = allBreaks one + allBreaks other := by
  induction one with
  | nil => exact (Nat.zero_add _).symm
  | cons first rest ih => rw [List.cons_append, allBreaks_cons, ih, allBreaks_cons, Nat.add_assoc]

theorem allBreaks_flatMap {α : Type} {whole : α -> String} {parts : α -> List String}
    (same : forall item, breaks (whole item) = allBreaks (parts item)) (items : List α) :
    allBreaks (items.map whole) = allBreaks (items.flatMap parts) := by
  induction items with
  | nil => rfl
  | cons first rest ih =>
      rw [List.map_cons, allBreaks_cons, same, ih, List.flatMap_cons, allBreaks_append]

theorem allBreaks_eq_zero_iff {texts : List String} :
    allBreaks texts = 0 <-> forall text, text ∈ texts -> '\n' ∉ text.toList := by
  induction texts with
  | nil => simp [allBreaks]
  | cons first rest ih =>
      rw [allBreaks_cons, Nat.add_eq_zero_iff, ih, breaks, List.count_eq_zero, List.forall_mem_cons]

theorem breaks_join {separator : String} (unbroken : breaks separator = 0) (parts : List String) :
    breaks (join separator parts) = allBreaks parts := by
  induction parts with
  | nil => rfl
  | cons part rest ih =>
      cases rest with
      | nil => rfl
      | cons next rest =>
          rw [join, breaks_append, breaks_append, unbroken, ih, allBreaks_cons]
          rfl

theorem breaks_quoteLiteral (text : String) : breaks (quoteLiteral text) = breaks text := by
  have doubled : forall chars, (Literal.doubled chars).count '\n' = chars.count '\n' := by
    intro chars
    induction chars with
    | nil => rfl
    | cons c rest ih =>
        rw [Literal.doubled]
        split
        next quote => simp [quote, ih]
        · rw [List.count_cons, List.count_cons, ih]
  rw [breaks, quoteLiteral, String.toList_ofList, Literal.chars]
  simp [doubled, breaks]

theorem allBreaks_singleton (text : String) : allBreaks [text] = breaks text :=
  (allBreaks_cons text []).trans (Nat.add_zero _)

theorem allBreaks_map_quoteLiteral (texts : List String) :
    allBreaks (texts.map quoteLiteral) = allBreaks texts := by
  induction texts with
  | nil => rfl
  | cons first rest ih =>
      rw [List.map_cons, allBreaks_cons, allBreaks_cons, ih, breaks_quoteLiteral]

/-- A text has one line more than line breaks. -/
theorem length_lines (text : String) : (lines text).length = breaks text + 1 := by
  rw [lines, List.length_map, breaks]
  induction text.toList with
  | nil => rfl
  | cons c rest ih =>
      rw [List.splitOn, List.splitOnP_cons_eq_if_modifyHead, List.count_cons]
      split
      · rw [List.length_cons, <- List.splitOn, ih]
      · rw [List.length_modifyHead, <- List.splitOn, ih]

/-- Texts on lines are cut wherever one of them is cut. -/
theorem lines_join {texts : List String} (nonempty : texts ≠ []) :
    lines (join "\n" texts) = texts.flatMap lines := by
  induction texts with
  | nil => exact absurd rfl nonempty
  | cons first rest ih =>
      cases rest with
      | nil => exact (List.append_nil _).symm
      | cons next rest =>
          have broken : (join "\n" (first :: next :: rest)).toList =
              first.toList ++ '\n' :: (join "\n" (next :: rest)).toList := by
            rw [join, String.toList_append, String.toList_append, List.append_assoc]
            rfl
          rw [lines, broken, List.splitOn_append_cons_self, List.map_append, List.flatMap_cons,
            <- ih (List.cons_ne_nil next rest)]
          rfl

theorem lines_of_unbroken {text : String} (unbroken : '\n' ∉ text.toList) :
    lines text = [text] := by
  rw [lines, List.splitOn_eq_singleton unbroken, List.map_singleton, String.ofList_toList]

/-- Texts on lines are read back exactly when none of them has a line break. -/
theorem lines_join_eq_iff {texts : List String} (nonempty : texts ≠ []) :
    lines (join "\n" texts) = texts <-> allBreaks texts = 0 := by
  constructor
  · intro same
    have counted : (lines (join "\n" texts)).length = allBreaks texts + texts.length := by
      rw [lines_join nonempty, List.length_flatMap]
      clear nonempty same
      induction texts with
      | nil => rfl
      | cons first rest ih =>
          rw [List.map_cons, List.sum_cons, ih, length_lines, allBreaks_cons, List.length_cons]
          omega
    rw [same] at counted
    omega
  · intro none
    have unbroken := allBreaks_eq_zero_iff.mp none
    rw [lines_join nonempty]
    calc texts.flatMap lines
        = texts.flatMap (fun text => [text]) := by
          rw [List.flatMap_def, List.flatMap_def]
          congr 1
          exact List.map_congr_left fun text member => lines_of_unbroken (unbroken text member)
      _ = texts := List.flatMap_singleton' texts

/-- Names, paths and numbers have no line break. -/
theorem breaks_of_run {text : String}
    (run : forall c, c ∈ text.toList -> Store.isRunChar c = true) : breaks text = 0 := by
  apply List.count_eq_zero.mpr
  intro member
  have impossible := run '\n' member
  revert impossible
  decide

theorem breaks_of_isPath {text : String} (path : Store.isPath text = true) : breaks text = 0 := by
  apply breaks_of_run
  intro c member
  rw [<- Store.join_dotted text] at member
  exact Store.isRunChar_of_mem_join (List.all_eq_true.mp path) c member

theorem breaks_of_isName {name : String} (named : Store.isName name = true) : breaks name = 0 :=
  breaks_of_isPath (Store.isPath_of_isName named)

theorem breaks_repr (n : Nat) : breaks (Nat.repr n) = 0 :=
  breaks_of_run fun _ member => Store.isRunChar_of_isDigit (Store.isDigit_of_mem_repr member)

end Text

/-! ## Terms -/

namespace Condition

open Text

theorem breaks_wrapped (negated : Bool) (text : String) :
    breaks (wrapped negated text) = breaks text := by
  cases negated with
  | false => rfl
  | true =>
      rw [wrapped, if_pos rfl, breaks_append, breaks_append]
      simp [breaks]

theorem breaks_equation (negated : Bool) (field value : String) :
    breaks (equation negated field value) = breaks field + breaks value := by
  cases negated <;> simp [equation, breaks]

theorem breaks_listing (negated : Bool) {field : String} (named : breaks field = 0)
    (values : List String) : breaks (listing negated field values) = allBreaks values := by
  cases values with
  | nil => cases negated <;> simp [listing, breaks, allBreaks]
  | cons value more =>
      have opening : breaks (if negated then " NOT IN (" else " IN (") = 0 := by
        cases negated <;> rfl
      have closing : breaks ")" = 0 := rfl
      have joined : breaks (join ", " (value :: more)) = allBreaks (value :: more) :=
        breaks_join rfl _
      change breaks (field ++ _ ++ join ", " (value :: more) ++ ")") = _
      rw [breaks_append, breaks_append, breaks_append, named, opening, joined, closing]
      omega

theorem breaks_setting {field : String} (named : breaks field = 0) (unset set : Bool) :
    breaks (setting field unset set) = 0 := by
  cases unset <;> cases set <;> simp [setting, breaks_append, named] <;> rfl

end Condition

namespace Term

open Text

/-- Free text is shown as it is, unless it is a pattern that is tried on known
tags. -/
def showsText (term : Term) (tags : TagSet) : Bool :=
  match term.attr.domain with
  | .text => true
  | .externalCodes => !(term.isPattern && !tags.isEmpty)
  | .numeric | .categorical _ | .presence _ => false

theorem breaks_number {field : String} (named : breaks field = 0) (relation : Relation)
    (value : Int) : breaks (field ++ " " ++ relation.sign ++ " " ++ integerText value) = 0 := by
  have blank : breaks " " = 0 := rfl
  have sign : breaks relation.sign = 0 := by cases relation <;> rfl
  have number : breaks (integerText value) = 0 := breaks_of_run Store.isRunChar_of_mem_integerText
  rw [breaks_append, breaks_append, breaks_append, breaks_append, named, blank, sign, number]

theorem breaks_found {field : String} (named : breaks field = 0) (text : String) :
    breaks ("match(" ++ field ++ ", " ++ quoteLiteral text ++ ") <> 0") = breaks text := by
  have opening : breaks "match(" = 0 := rfl
  have comma : breaks ", " = 0 := rfl
  have closing : breaks ") <> 0" = 0 := rfl
  rw [breaks_append, breaks_append, breaks_append, breaks_append, named, opening, comma, closing,
    breaks_quoteLiteral]
  omega

theorem allBreaks_tableCodes (table : List LetterCode) (found : String -> Bool) :
    allBreaks ((tableCodes table).filter found) = 0 := by
  apply allBreaks_eq_zero_iff.mpr
  intro code member
  rcases List.mem_map.mp (List.mem_of_mem_filter member) with ⟨entry, _, rfl⟩
  exact List.count_eq_zero.mp (breaks_repr entry.code)

variable [Pattern.Engine]

/-- A term that constrains nothing has no text to show. -/
theorem allBreaks_literals_of_empty {term : Term} (formed : term.WellFormed)
    (empty : term.isEmpty = true) (tags : TagSet) : allBreaks (term.literals tags) = 0 := by
  rcases term.attr.domain_cases with free | numeric | ⟨table, tabled⟩
  · rw [wellFormed_free free] at formed
    cases pattern : term.isPattern with
    | true =>
        rw [pattern] at formed
        exact absurd (formed.1.symm.trans empty) Bool.false_ne_true
    | false =>
        have untried : (term.isPattern && !tags.isEmpty) = false := by rw [pattern]; rfl
        rw [literals_of_free free (Or.inr untried), String.isEmpty_iff.mp empty]
        rfl
  · rw [literals, numeric]
    rfl
  · rw [literals]
    cases domain : term.attr.domain <;> rw [domain] at tabled <;> cases tabled <;> rfl

/-- The condition of a term has the line breaks of its literals. -/
theorem breaks_predicate {term : Term} (formed : term.WellFormed) {scope : Scope}
    (named : Store.isName scope.wordAlias = true) :
    breaks (term.predicate scope) = allBreaks (term.literals scope.tags) := by
  have field : breaks (scope.field term.attr) = 0 :=
    breaks_of_isPath (scope.dotted_field named term.attr).1
  cases filled : term.isEmpty with
  | true =>
      rw [allBreaks_literals_of_empty formed filled, predicate, condition?, filled]
      rfl
  | false =>
      cases formed.intended filled scope with
      | number domain literal split range written =>
          rw [written, literals, domain, Condition.breaks_wrapped, breaks_number field]
          rfl
      | code domain literal known coded written =>
          rw [written, literals, domain, Condition.breaks_equation, field, breaks_repr]
          rfl
      | codes domain marked compiled written =>
          rw [written, literals, domain, Condition.breaks_listing _ field, allBreaks_tableCodes]
          rfl
      | state domain literal known coded selected written =>
          rw [written, literals, domain, Condition.breaks_setting field]
          rfl
      | states domain marked compiled selected written =>
          rw [written, literals, domain, Condition.breaks_setting field]
          rfl
      | tags domain marked known compiled written =>
          have tried : (term.isPattern && !scope.tags.isEmpty) = true := by
            rw [marked, known]
            rfl
          rw [written, Condition.breaks_listing _ field, literals_of_tried domain tried, codesFound,
            compiled, allBreaks_map_quoteLiteral]
          rfl
      | found free marked untried compiled written =>
          have shown : term.literals scope.tags = [term.text] := by
            apply literals_of_free free (untried.imp_right _)
            intro none
            rw [none, Bool.not_true, Bool.and_false]
          rw [written, shown, Condition.breaks_wrapped, breaks_found field, allBreaks_singleton]
      | literal free literal written =>
          have untried : (term.isPattern && !scope.tags.isEmpty) = false := by
            rw [literal]
            rfl
          rw [written, literals_of_free free (Or.inr untried), Condition.breaks_equation, field,
            breaks_quoteLiteral, allBreaks_singleton, Nat.zero_add]

/-- If no known tag has a line break, only a text that is shown can have one. -/
theorem allBreaks_literals {tags : TagSet}
    (unbroken : forall code, code ∈ tags.codes -> '\n' ∉ code.toList) (term : Term) :
    allBreaks (term.literals tags) = if term.showsText tags then breaks term.text else 0 := by
  rw [literals, showsText]
  cases term.attr.domain with
  | text => exact allBreaks_singleton term.text
  | numeric => rfl
  | categorical table => rfl
  | presence table => rfl
  | externalCodes =>
      cases (term.isPattern && !tags.isEmpty) with
      | false => exact allBreaks_singleton term.text
      | true =>
          apply allBreaks_eq_zero_iff.mpr
          intro code member
          exact unbroken code (List.mem_of_mem_filter member)

end Term

/-! ## Positions and phrases -/

open Text

/-- Conditions that are put together from those of some items have the line breaks
of the items.  An item without a condition has none. -/
theorem breaks_gathered {α β : Type} {items : List α} {ask : α -> Option β} (render : β -> String)
    {whole : List β -> String}
    (additive : forall found, breaks (whole found) = allBreaks (found.map render))
    {made : Option (List β)}
    (gathered : made = if (items.filterMap ask).isEmpty then none else some (items.filterMap ask)) :
    breaks ((made.map whole).getD "") =
      allBreaks (items.map fun item => ((ask item).map render).getD "") := by
  have kept : allBreaks ((items.filterMap ask).map render) =
      allBreaks (items.map fun item => ((ask item).map render).getD "") := by
    clear gathered
    induction items with
    | nil => rfl
    | cons first rest ih =>
        rw [List.map_cons, allBreaks_cons, <- ih, List.filterMap_cons]
        cases ask first with
        | none => exact (Nat.zero_add _).symm
        | some one => exact allBreaks_cons (render one) _
  rw [<- kept, gathered]
  cases items.filterMap ask with
  | nil => rfl
  | cons first rest => exact additive (first :: rest)

theorem breaks_parenthesized (text : String) : breaks ("(" ++ text ++ ")") = breaks text := by
  have opening : breaks "(" = 0 := rfl
  have closing : breaks ")" = 0 := rfl
  rw [breaks_append, breaks_append, opening, closing, Nat.zero_add, Nat.add_zero]

theorem TermSet.breaks_predicate [Pattern.Engine] (set : TermSet) (scope : Scope) :
    breaks (set.predicate scope) = allBreaks (set.terms.map fun term => term.predicate scope) := by
  refine breaks_gathered Condition.render (fun found => ?_) ?_
  · rw [Condition.renderAll, breaks_parenthesized, breaks_join rfl]
  · rw [condition?]
    cases set.terms.filterMap fun term => term.condition? scope <;> rfl

namespace WordPosition

variable [Pattern.Engine]

theorem breaks_predicate (word : WordPosition) (scope : Scope) :
    breaks (word.predicate scope) =
      allBreaks (word.terms.map fun term => term.predicate scope) := by
  have sets : breaks (word.predicate scope) =
      allBreaks (word.sets.map fun set => set.predicate scope) := by
    refine breaks_gathered Condition.renderAll (fun found => ?_) ?_
    · rw [Condition.renderAny, breaks_parenthesized, breaks_join rfl]
    · rw [condition?]
      cases word.sets.filterMap fun set => set.condition? scope <;> rfl
  rw [sets, terms, List.map_flatMap]
  exact allBreaks_flatMap (fun set => set.breaks_predicate scope) word.sets

/-- The texts that the terms of a position show. -/
def shownTexts (word : WordPosition) (tags : TagSet) : List String :=
  (word.terms.filter fun term => term.showsText tags).map Term.text

theorem breaks_shown {word : WordPosition}
    (formed : forall term, term ∈ word.terms -> term.WellFormed) {scope : Scope}
    (named : Store.isName scope.wordAlias = true)
    (unbroken : forall code, code ∈ scope.tags.codes -> '\n' ∉ code.toList) :
    breaks (word.predicate scope) = allBreaks (word.shownTexts scope.tags) := by
  rw [breaks_predicate, shownTexts]
  generalize word.terms = terms at formed ⊢
  induction terms with
  | nil => rfl
  | cons term rest ih =>
      have here := Term.breaks_predicate (formed term List.mem_cons_self) named
      rw [Term.allBreaks_literals unbroken] at here
      rw [List.map_cons, allBreaks_cons, here,
        ih fun later member => formed later (List.mem_cons_of_mem term member), List.filter_cons]
      cases term.showsText scope.tags with
      | false => exact Nat.zero_add _
      | true => exact (allBreaks_cons term.text _).symm

end WordPosition

/-- The texts that the terms of a phrase show. -/
def Phrase.shownTexts (phrase : Phrase) (tags : TagSet) : List String :=
  phrase.words.flatMap fun word => word.shownTexts tags

theorem allBreaks_map_eq_zero {α : Type} {items : List α} {render : α -> String}
    (unbroken : forall item, item ∈ items -> breaks (render item) = 0) :
    allBreaks (items.map render) = 0 := by
  apply allBreaks_eq_zero_iff.mpr
  intro text member
  rcases List.mem_map.mp member with ⟨item, among, rfl⟩
  exact List.count_eq_zero.mp (unbroken item among)

theorem Selection.breaks_render (selection : Selection) :
    breaks selection.render = allBreaks (selection.sources.map Source.render) +
      allBreaks (selection.clauses.map Clause.render) := by
  have head : breaks selection.shape.head = 0 := by cases selection.shape <;> rfl
  have source : breaks " from " = 0 := rfl
  have sources : breaks (join ", " (selection.sources.map Source.render)) =
      allBreaks (selection.sources.map Source.render) := breaks_join rfl _
  rw [render, breaks_append, breaks_append, breaks_append, head, source, sources, Nat.zero_add]
  cases selection.clauses with
  | nil => rfl
  | cons first rest =>
      have conditions : breaks " where " = 0 := rfl
      change _ + breaks (" where " ++ join " and " ((first :: rest).map Clause.render)) = _
      rw [breaks_append, conditions, breaks_join rfl, Nat.zero_add]

theorem Source.breaks_render {source : Source} (entity : Store.isName source.entity = true)
    (name : Store.isName source.name = true) : breaks source.render = 0 := by
  have blank : breaks " " = 0 := rfl
  rw [render, breaks_append, breaks_append, breaks_of_isName entity, breaks_of_isName name, blank]

theorem Clause.breaks_binding {left right : String} (one : Store.isPath left = true)
    (other : Store.isPath right = true) : breaks (Clause.binding left right).render = 0 := by
  have equal : breaks " = " = 0 := rfl
  rw [render, breaks_append, breaks_append, breaks_of_isPath one, breaks_of_isPath other, equal]

theorem BoundWord.breaks_constraints (bound : BoundWord) :
    allBreaks (bound.constraints.map Clause.render) =
      breaks ((bound.condition?.map Condition.renderAny).getD "") := by
  rw [constraints]
  cases bound.condition? with
  | none => rfl
  | some alternatives => exact allBreaks_singleton _

namespace Compiler

variable {compiler : Compiler} {shape : ResultShape}

theorem breaks_of_mem_bindings {schema : Schema} (plain : schema.IsPlain) {bound : BoundWord}
    {clause : Clause} (member : clause ∈ bound.bindings schema) : breaks clause.render = 0 := by
  have paths := plain_bindings plain member
  cases clause with
  | filter text => exact absurd paths id
  | binding left right => exact Clause.breaks_binding paths.1 paths.2
  | constraint alternatives => simp [BoundWord.bindings] at member

section AnyEngine

variable [Pattern.Engine]

/-- Positions that are left out show no line break either. -/
theorem allBreaks_constraints
    (unbroken : forall code, code ∈ compiler.tags.codes -> '\n' ∉ code.toList)
    {words : List WordPosition}
    (formed : forall word, word ∈ words -> forall term, term ∈ word.terms -> term.WellFormed)
    (start : Nat) :
    allBreaks ((((compiler.wordsFrom shape start words).filter fun word => !word.isIdle).flatMap
      BoundWord.constraints).map Clause.render) =
        allBreaks (words.flatMap fun word => word.shownTexts compiler.tags) := by
  induction words generalizing start with
  | nil => rfl
  | cons word rest ih =>
      have later := ih (fun other member => formed other (List.mem_cons_of_mem word member))
        (start + 1)
      have named : Store.isName (compiler.scopeAt shape start).wordAlias = true :=
        isName_scopeAt start
      have shown := WordPosition.breaks_shown (formed word List.mem_cons_self) named unbroken
      have here : allBreaks ((compiler.boundAt shape start word).constraints.map Clause.render) =
          allBreaks (word.shownTexts compiler.tags) :=
        (BoundWord.breaks_constraints _).trans shown
      rw [List.flatMap_cons, allBreaks_append, <- here, <- later, wordsFrom]
      change allBreaks (((List.filter _ (compiler.boundAt shape start word :: _)).flatMap _).map _) = _
      cases idle : (compiler.boundAt shape start word).isIdle with
      | false =>
          rw [List.filter_cons_of_pos (by rw [idle]; rfl), List.flatMap_cons, List.map_append,
            allBreaks_append]
      | true =>
          have none : (compiler.boundAt shape start word).condition? = none := by
            simp only [BoundWord.isIdle, Bool.and_eq_true, Option.isNone_iff_eq_none] at idle
            exact idle.1.2
          rw [List.filter_cons_of_neg (by rw [idle]; decide), BoundWord.constraints, none]
          exact (Nat.zero_add _).symm

/-- The fragment of a phrase has the line breaks of the texts that it shows. -/
theorem breaks_selection (plain : compiler.schema.IsPlain)
    (unbroken : forall code, code ∈ compiler.tags.codes -> '\n' ∉ code.toList) {phrase : Phrase}
    (formed : phrase.WellFormed) :
    breaks (compiler.selection shape none phrase).render =
      allBreaks (phrase.shownTexts compiler.tags) := by
  have sources :
      allBreaks ((compiler.selection shape none phrase).sources.map Source.render) = 0 := by
    apply allBreaks_map_eq_zero
    intro source member
    rcases plain_sources plain member with ⟨entity, name⟩
    exact Source.breaks_render entity name
  have works : allBreaks ((workBindings shape).map Clause.render) = 0 := by
    cases shape <;> rfl
  have bindings : allBreaks (((compiler.boundWords shape phrase).flatMap
      (BoundWord.bindings compiler.schema)).map Clause.render) = 0 := by
    apply allBreaks_map_eq_zero
    intro clause member
    rcases List.mem_flatMap.mp member with ⟨bound, _, within⟩
    exact breaks_of_mem_bindings plain within
  rw [Selection.breaks_render, sources, Nat.zero_add]
  change allBreaks ((filterClauses none ++ workBindings shape ++ _ ++ _).map Clause.render) = _
  rw [List.map_append, List.map_append, List.map_append, allBreaks_append, allBreaks_append,
    allBreaks_append, works, bindings]
  exact (Nat.zero_add _).trans (allBreaks_constraints unbroken formed 0)

/-- What plain output comes to on lines.  Cut at its line breaks it gives the lines
of the fragments one after another.  A fragment has one line, and one more for each
line break in the texts that its phrase shows; so there is one line for each phrase
exactly when no term shows a text with a line break. -/
theorem printLines_lines {text : String} {query : Query} (accepted : Query.parse text = .ok query)
    {tags : TagSet} (unbroken : forall code, code ∈ tags.codes -> '\n' ∉ code.toList)
    (shape : ResultShape) :
    let fragments := compile { tags := tags } query shape none
    lines (Fragment.print .lines fragments) =
        fragments.flatMap (fun fragment => lines fragment.text) ∧
      fragments.map (fun fragment => (lines fragment.text).length) =
        query.phrases.map (fun phrase => allBreaks (phrase.shownTexts tags) + 1) ∧
      (lines (Fragment.print .lines fragments) = fragments.map Fragment.text <->
        forall phrase, phrase ∈ query.phrases -> forall shown, shown ∈ phrase.shownTexts tags ->
          '\n' ∉ shown.toList) := by
  intro fragments
  have plain : Schema.IsPlain {} := by constructor <;> decide
  have texts : fragments.map Fragment.text =
      query.phrases.map fun phrase => (selection { tags := tags } shape none phrase).render :=
    compileFrom_texts { tags := tags } shape none query.phrases 0
  have nonempty : fragments.map Fragment.text ≠ [] := by
    rw [texts]
    exact List.cons_ne_nil _ _
  have broken : forall phrase, phrase ∈ query.phrases ->
      breaks (selection { tags := tags } shape none phrase).render =
        allBreaks (phrase.shownTexts tags) := by
    intro phrase among
    have formed := Phrase.wellFormed_of_parse accepted among
    exact breaks_selection plain unbroken formed
  have printed : Fragment.print .lines fragments = join "\n" (fragments.map Fragment.text) := rfl
  refine ⟨?_, ?_, ?_⟩
  · rw [printed, lines_join nonempty, List.flatMap_map]
  · have counted : fragments.map (fun fragment => (lines fragment.text).length) =
        (fragments.map Fragment.text).map fun text => (lines text).length := by
      rw [List.map_map]
      rfl
    rw [counted, texts, List.map_map]
    apply List.map_congr_left
    intro phrase among
    rw [Function.comp_apply, length_lines, broken phrase among]
  · rw [printed, lines_join_eq_iff nonempty, texts, allBreaks_eq_zero_iff, List.forall_mem_map]
    apply forall_congr'
    intro phrase
    apply forall_congr'
    intro among
    rw [<- allBreaks_eq_zero_iff, <- broken phrase among]
    exact List.count_eq_zero.symm

end AnyEngine

/-- Line breaks that are not shown: between a relation and its number, in a pattern
on letters, and in a pattern that is tried on known tags. -/
theorem printLines_lines_of_hidden_breaks :
    let text := "pye(\">=\n1600\"):spg(\"\x7bM|\n\x7d\")|pos(\"\x7bn\n?\x7d\")$spe(\"o'er\tall\")"
    let tags := TagSet.ofList ["n", "v'"]
    let query : Query :=
      ⟨⟨⟨⟨⟨.publicationYearEarly, ">=\n1600", false, false⟩,
          [⟨.speakerGender, "0|\n", false, true⟩]⟩, []⟩, []⟩,
        [⟨⟨⟨⟨.partOfSpeech, "n\n?", false, true⟩, []⟩, []⟩,
          [⟨⟨⟨.spelling, "o'er\tall", false, false⟩, []⟩, []⟩]⟩]⟩
    let fragments := compile { tags := tags } query .wordId none
    Query.parse text = .ok query ∧
      (forall code, code ∈ tags.codes -> '\n' ∉ code.toList) ∧
      fragments.map Fragment.text =
        ["select w0.id from Word w0 where ((w0.work.pubDate.startYear >= 1600 and " ++
            "w0.speech.gender.gender IN (0)))",
          "select w0.id from Word w0, WordPart wp0, Word w1 where wp0.word = w0 and " ++
            "w1 = w0.next and ((wp0.lemPos.pos.tag IN ('n'))) and " ++
            "((w1.spellingInsensitive.string = 'o''er\tall'))"] ∧
      Text.lines (Fragment.print .lines fragments) = fragments.map Fragment.text := by
  intro text tags query fragments
  have read : (Query.parse text).toOption = some query := by decide +kernel
  have accepted := Query.parse_eq_ok_of_toOption read
  have unbroken : forall code, code ∈ tags.codes -> '\n' ∉ code.toList := by decide +kernel
  have hidden : forall phrase, phrase ∈ query.phrases ->
      forall shown, shown ∈ phrase.shownTexts tags -> '\n' ∉ shown.toList := by decide +kernel
  refine ⟨accepted, unbroken, by decide +kernel, ?_⟩
  exact (printLines_lines accepted unbroken .wordId).2.2.mpr hidden

/-- A quoted text with a line break in it: two phrases give three lines. -/
theorem not_printLines_lines_of_break :
    let text := "spe(\"a\nb\")|spe(c)"
    let query : Query :=
      ⟨⟨⟨⟨⟨.spelling, "a\nb", false, false⟩, []⟩, []⟩, []⟩,
        [⟨⟨⟨⟨.spelling, "c", false, false⟩, []⟩, []⟩, []⟩]⟩
    let fragments := compile {} query .wordId none
    Query.parse text = .ok query ∧
      Text.lines (Fragment.print .lines fragments) =
        ["select w0.id from Word w0 where ((w0.spellingInsensitive.string = 'a", "b'))",
          "select w0.id from Word w0 where ((w0.spellingInsensitive.string = 'c'))"] ∧
      Text.lines (Fragment.print .lines fragments) ≠ fragments.map Fragment.text := by
  intro text query fragments
  have read : (Query.parse text).toOption = some query := by decide +kernel
  exact ⟨Query.parse_eq_ok_of_toOption read, by decide +kernel, by decide +kernel⟩

end Compiler

end CorpusQuery
