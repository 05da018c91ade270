import CorpusQuery.Proofs.Selection.Fields
import CorpusQuery.Proofs.Store.Statement

namespace CorpusQuery

/-!
# Written selections

A selection is written by joining texts.  The store reads the written selection
as the statement that the selection is built as, as long as what is written
without quotes is plain: integers, codes made of digits, and paths of names.
Literals may hold anything.

The proofs follow the way a selection is put together, from operands to
conditions, clauses and the whole.
-/

/-! ## Selections as statements -/

/-- A code stands for its number. -/
def Operand.value : Operand -> Store.Value
  | .integer value => .number value
  | .literal text => .text text
  | .code text => .number ((Text.integer? text.toList).getD 0)

def Condition.formula : Condition -> Store.Formula
  | .compare field relation operand =>
    .atom (.compare (.path (Store.dotted field)) relation operand.value)
  | .matching field pattern => .atom (.found (Store.dotted field) pattern)
  | .member negated field operands =>
    .atom (.member negated (Store.dotted field) (operands.map Operand.value))
  | .present expected field => .atom (.null expected (Store.dotted field))
  | .never => .atom (.compare (.number 1) .equal (.number 0))
  | .negation condition => .group true [[condition.formula]]

/-- Conditions that must all hold, in parentheses. -/
def Store.Formula.every (conditions : List Store.Formula) : Store.Formula :=
  .group false [conditions]

/-- Lists of conditions of which one must hold, all in parentheses. -/
def Store.Formula.either (alternatives : List (List Store.Formula)) : Store.Formula :=
  .group false (alternatives.map fun conditions => [.every conditions])

/-- A filter is whatever the store makes of it. -/
def Clause.formula : Clause -> Store.Formula
  | .filter text => .group false ((Store.readCondition? text).getD [])
  | .binding left right =>
    .atom (.compare (.path (Store.dotted left)) .equal (.path (Store.dotted right)))
  | .constraint alternatives =>
    .either (alternatives.map fun conditions => conditions.map Condition.formula)

def ResultShape.result : ResultShape -> List String
  | .wordId => ["w0", "id"]
  | .fullWord => ["w0"]
  | .distinctWork => ["work"]
  | .distinctWorkPart => ["workPart"]

/-- The statement that a selection is built as. -/
def Selection.statement (selection : Selection) : Store.Statement where
  distinct := selection.shape.bindsWork
  result := selection.shape.result
  sources := selection.sources
  alternatives := [selection.clauses.map Clause.formula]

/-! ## Conditions -/

/-- Nothing but digits is written without quotes. -/
def Operand.Plain : Operand -> Prop
  | .integer _ | .literal _ => True
  | .code text => Exists fun code => text = Nat.repr code

def Condition.Plain : Condition -> Prop
  | .compare field _ operand => Store.isPath field = true ∧ operand.Plain
  | .matching field _ | .present _ field => Store.isPath field = true
  | .member _ field operands =>
    Store.isPath field = true ∧ operands ≠ [] ∧ forall operand, operand ∈ operands -> operand.Plain
  | .never => True
  | .negation condition => condition.Plain

open Store (Lexes Seals Lexeme keyword)

theorem Operand.lexes {operand : Operand} (plain : operand.Plain) :
    Lexes operand.render [.value operand.value] := by
  cases operand with
  | integer value => exact Store.lexes_integer value
  | literal text => exact Store.lexes_literal text
  | code text =>
      rcases plain with ⟨code, same⟩
      rw [render, value, same, Store.integer?_repr]
      exact Store.lexes_integer (Int.ofNat code)

/-- A comma with the space after it. -/
theorem seals_separator : Seals ", " [.comma] := by
  have spelled : ", " = "," ++ " " := by decide
  rw [spelled]
  exact Store.seals_comma.lexes.space

theorem seals_and : Seals " and " [keyword "and"] :=
  Store.seals_keywords ["and"] (by decide) (by decide)

theorem seals_or : Seals " or " [keyword "or"] :=
  Store.seals_keywords ["or"] (by decide) (by decide)

theorem lexes_membership {field : String} {path : List Lexeme} (negated : Bool)
    (one : Lexes field path) {operands : List Operand}
    (each : forall operand, operand ∈ operands -> operand.Plain) :
    Lexes (field ++ (if negated then " NOT IN (" else " IN (") ++
        Text.join ", " (operands.map Operand.render) ++ ")")
      (path ++ (if negated then [keyword "NOT", keyword "IN"] else [keyword "IN"]) ++
        .opening :: [.comma].intercalate (operands.map fun operand => [.value operand.value]) ++
        [.closing]) := by
  have opening : Seals (if negated then " NOT IN (" else " IN (")
      ((if negated then [keyword "NOT", keyword "IN"] else [keyword "IN"]) ++ [.opening]) := by
    cases negated with
    | true =>
        have spelled : " NOT IN (" = " NOT IN " ++ "(" := by decide
        simp only [if_true, spelled]
        exact (Store.seals_keywords ["NOT", "IN"] (by decide) (by decide)).lexes.openAfter
    | false =>
        have spelled : " IN (" = " IN " ++ "(" := by decide
        simp only [Bool.false_eq_true, if_false, spelled]
        exact (Store.seals_keywords ["IN"] (by decide) (by decide)).lexes.openAfter
  have opens :
      (if negated then " NOT IN (" else " IN (").toList.head?.any Store.endsLexeme = true := by
    cases negated <;> decide
  have inner := Store.lexes_join seals_separator (by decide) operands
    fun operand member => Operand.lexes (each operand member)
  have whole := ((one.seal opening opens).append inner).closeAfter.lexes
  simp only [List.append_assoc, List.cons_append, List.nil_append] at whole ⊢
  exact whole

theorem lexes_found {field : String} {path : List Lexeme} (one : Lexes field path)
    (pattern : String) :
    Lexes ("match(" ++ field ++ ", " ++ Text.quoteLiteral pattern ++ ") <> 0")
      (keyword "match" :: .opening :: path ++ [.comma, .value (.text pattern), .closing,
        .relation .notEqual, .value (.number 0)]) := by
  have opening : Seals "match(" [keyword "match", .opening] := by
    have spelled : "match(" = "match" ++ "(" := by decide
    rw [spelled]
    exact (Store.lexes_keyword (by decide)).openAfter
  have closing : Lexes ") <> 0" [.closing, .relation .notEqual, .value (.number 0)] := by
    have spelled : ") <> 0" = ")" ++ " " ++ "<>" ++ " " ++ "0" := by decide
    rw [spelled]
    exact Store.seals_closing.lexes.compared .notEqual (Store.lexes_integer 0)
  have whole := (((opening.append one).seal seals_separator (by decide)).append
    (Store.lexes_literal pattern)).append closing (by decide)
  simp only [List.append_assoc, List.cons_append, List.nil_append] at whole ⊢
  exact whole

theorem lexes_presence {field : String} {path : List Lexeme} (one : Lexes field path)
    (expected : Bool) :
    Lexes (field ++ (if expected then " is not null" else " is null"))
      (path ++ keyword "is" ::
        if expected then [keyword "not", keyword "null"] else [keyword "null"]) := by
  cases expected with
  | true =>
      have spelled : " is not null" = " " ++ "is not null" := by decide
      simp only [if_true, spelled]
      exact one.append (Store.seals_blank.append
        (Store.lexes_keywords ["is", "not", "null"] (by decide) (by decide))) (by decide)
  | false =>
      have spelled : " is null" = " " ++ "is null" := by decide
      simp only [Bool.false_eq_true, if_false, spelled]
      exact one.append (Store.seals_blank.append
        (Store.lexes_keywords ["is", "null"] (by decide) (by decide))) (by decide)

theorem lexes_negation {text : String} {lexemes : List Lexeme} (inner : Lexes text lexemes) :
    Lexes ("NOT (" ++ text ++ ")") (keyword "NOT" :: .opening :: (lexemes ++ [.closing])) := by
  have opening : Seals "NOT (" [keyword "NOT", .opening] := by
    have spelled : "NOT (" = "NOT" ++ " " ++ "(" := by decide
    rw [spelled]
    exact (Store.lexes_keyword (by decide)).space.lexes.openAfter
  exact (opening.append inner).closeAfter.lexes

namespace Condition

theorem lexes {condition : Condition} (plain : condition.Plain) :
    Lexes condition.render condition.formula.lexemes := by
  induction condition with
  | compare field relation operand =>
      rw [formula, Store.Formula.lexemes]
      exact (Store.lexes_path plain.1).compared relation (Operand.lexes plain.2)
  | matching field pattern =>
      rw [formula, Store.Formula.lexemes]
      exact lexes_found (Store.lexes_path plain) pattern
  | member negated field operands =>
      rw [formula, Store.Formula.lexemes, Store.Atom.lexemes, List.map_map]
      exact lexes_membership negated (Store.lexes_path plain.1) plain.2.2
  | present expected field =>
      rw [formula, Store.Formula.lexemes]
      exact lexes_presence (Store.lexes_path plain) expected
  | never =>
      have spelled : "1 = 0" = "1" ++ " " ++ "=" ++ " " ++ "0" := by decide
      rw [render, spelled, formula, Store.Formula.lexemes]
      exact (Store.lexes_integer 1).compared .equal (Store.lexes_integer 0)
  | negation condition ih =>
      rw [formula, Store.Formula.lexemes_group, Store.alternativeLexemes, List.map_singleton,
        List.intercalate_singleton, List.map_singleton, List.intercalate_singleton]
      exact lexes_negation (ih plain)

theorem proper {condition : Condition} (plain : condition.Plain) : condition.formula.Proper := by
  induction condition with
  | compare field relation operand => exact .atom trivial
  | matching field pattern => exact .atom trivial
  | member negated field operands =>
      refine .atom ?_
      intro none
      exact plain.2.1 (List.map_eq_nil_iff.mp none)
  | present expected field => exact .atom trivial
  | never => exact .atom trivial
  | negation condition ih => exact (Store.ProperAlternatives.single (ih plain)).group true

end Condition

/-! ## Clauses -/

namespace Store.Formula

theorem lexemes_every (conditions : List Formula) :
    (every conditions).lexemes =
      .opening :: ([keyword "and"].intercalate (conditions.map lexemes) ++ [.closing]) := by
  rw [every, lexemes_group, alternativeLexemes, List.map_singleton, List.intercalate_singleton]
  rfl

theorem lexemes_either (alternatives : List (List Formula)) :
    (either alternatives).lexemes =
      .opening :: ([keyword "or"].intercalate (alternatives.map fun conditions =>
        (every conditions).lexemes) ++ [.closing]) := by
  rw [either, lexemes_group, alternativeLexemes, List.map_map]
  simp only [Function.comp_def, List.map_singleton, List.intercalate_singleton]
  rfl

theorem proper_every {conditions : List Formula} (filled : conditions ≠ [])
    (each : forall condition, condition ∈ conditions -> condition.Proper) :
    (every conditions).Proper :=
  (ProperAlternatives.ofConditions filled each).group false

theorem proper_either {alternatives : List (List Formula)} (nonempty : alternatives ≠ [])
    (filled : forall conditions, conditions ∈ alternatives -> conditions ≠ [])
    (each : forall conditions, conditions ∈ alternatives ->
      forall condition, condition ∈ conditions -> condition.Proper) :
    (either alternatives).Proper := by
  have single : forall alternative, alternative ∈ alternatives.map (fun conditions =>
      [every conditions]) -> ProperAlternatives [alternative] := by
    intro alternative among
    rcases List.mem_map.mp among with ⟨conditions, member, same⟩
    rw [<- same]
    exact .single (proper_every (filled conditions member) (each conditions member))
  refine .group (fun none => nonempty (List.map_eq_nil_iff.mp none)) ?_ ?_
  · intro alternative among
    exact (single alternative among).filled alternative (List.mem_singleton.mpr rfl)
  · intro alternative among
    exact (single alternative among).each alternative (List.mem_singleton.mpr rfl)

end Store.Formula

/-- Alternatives that are written without an empty list. -/
structure Condition.PlainAlternatives (alternatives : Disjunction) : Prop where
  nonempty : alternatives ≠ []
  filled : forall conditions, conditions ∈ alternatives -> conditions ≠ []
  each : forall conditions, conditions ∈ alternatives ->
    forall condition, condition ∈ conditions -> condition.Plain

namespace Condition

theorem lexes_renderAll {conditions : Conjunction}
    (each : forall condition, condition ∈ conditions -> condition.Plain) :
    Lexes (renderAll conditions) (Store.Formula.every (conditions.map formula)).lexemes := by
  have inner := Store.lexes_join seals_and (by decide) conditions fun condition member =>
    lexes (each condition member)
  rw [Store.Formula.lexemes_every, List.map_map]
  exact inner.parenthesized

theorem lexes_renderAny {alternatives : Disjunction} (plain : PlainAlternatives alternatives) :
    Lexes (renderAny alternatives)
      (Store.Formula.either (alternatives.map fun conditions => conditions.map formula)).lexemes := by
  have inner := Store.lexes_join seals_or (by decide) alternatives fun conditions among =>
    lexes_renderAll (plain.each conditions among)
  rw [Store.Formula.lexemes_either, List.map_map]
  exact inner.parenthesized

theorem proper_alternatives {alternatives : Disjunction} (plain : PlainAlternatives alternatives) :
    (Store.Formula.either (alternatives.map fun conditions => conditions.map formula)).Proper := by
  refine Store.Formula.proper_either
    (fun none => plain.nonempty (List.map_eq_nil_iff.mp none)) ?_ ?_
  · intro conditions among none
    rcases List.mem_map.mp among with ⟨inner, member, same⟩
    rw [<- same] at none
    exact plain.filled inner member (List.map_eq_nil_iff.mp none)
  · intro conditions among condition member
    rcases List.mem_map.mp among with ⟨inner, within, same⟩
    rw [<- same] at member
    rcases List.mem_map.mp member with ⟨source, here, made⟩
    rw [<- made]
    exact proper (plain.each inner within source here)

end Condition

/-- A clause made from a query, and not from a filter. -/
def Clause.Plain : Clause -> Prop
  | .filter _ => False
  | .binding left right => Store.isPath left = true ∧ Store.isPath right = true
  | .constraint alternatives => Condition.PlainAlternatives alternatives

namespace Clause

theorem lexes {clause : Clause} (plain : clause.Plain) :
    Lexes clause.render clause.formula.lexemes := by
  cases clause with
  | filter text => exact absurd plain id
  | binding left right =>
      have spelled : " = " = " " ++ "=" ++ " " := by decide
      have whole := (Store.lexes_path plain.1).compared .equal (Store.lexes_path plain.2)
      rw [formula, Store.Formula.lexemes, render, spelled, <- String.append_assoc,
        <- String.append_assoc]
      exact whole
  | constraint alternatives => exact Condition.lexes_renderAny plain

theorem proper {clause : Clause} (plain : clause.Plain) : clause.formula.Proper := by
  cases clause with
  | filter text => exact absurd plain id
  | binding left right => exact .atom trivial
  | constraint alternatives => exact Condition.proper_alternatives plain

end Clause

/-! ## Selections -/

theorem ResultShape.lexes_head (shape : ResultShape) :
    Lexes shape.head (keyword "select" :: (if shape.bindsWork then [keyword "distinct"] else []) ++
      [.value (.path shape.result)]) := by
  cases shape with
  | wordId =>
      have spelled : "select w0.id" = "select" ++ " " ++ "w0.id" := by decide
      have path : Store.isPath "w0.id" = true ∧ Store.dotted "w0.id" = ["w0", "id"] := by
        decide +kernel
      have value := Store.lexes_path path.1
      rw [path.2] at value
      rw [head, spelled]
      exact (Store.lexes_keyword (by decide)).space.append value
  | fullWord => exact Store.lexes_keywords ["select", "w0"] (by decide) (by decide)
  | distinctWork =>
      exact Store.lexes_keywords ["select", "distinct", "work"] (by decide) (by decide)
  | distinctWorkPart =>
      exact Store.lexes_keywords ["select", "distinct", "workPart"] (by decide) (by decide)

theorem Source.lexes {source : Source} (entity : Store.isName source.entity = true)
    (name : Store.isName source.name = true) :
    Lexes source.render (Store.sourceLexemes source) :=
  (Store.lexes_keyword entity).space.append (Store.lexes_keyword name)

namespace Selection

/-- Names and clauses are such that the store can tell them apart. -/
structure Plain (selection : Selection) : Prop where
  sourced : selection.sources ≠ []
  named : forall source, source ∈ selection.sources ->
    Store.isName source.entity = true ∧ Store.isName source.name = true
  clear : forall clause, clause ∈ selection.clauses -> clause.Plain

theorem lexes_clauses {clauses : List Clause} (nonempty : clauses ≠ [])
    (clear : forall clause, clause ∈ clauses -> clause.Plain) :
    Lexes (" where " ++ Text.join " and " (clauses.map Clause.render))
      (Store.whereLexemes [clauses.map Clause.formula]) := by
  have opening : Seals " where " [keyword "where"] :=
    Store.seals_keywords ["where"] (by decide) (by decide)
  have inner := Store.lexes_join seals_and (by decide) clauses fun clause member =>
    Clause.lexes (clear clause member)
  have written : Store.whereLexemes [clauses.map Clause.formula] = [keyword "where"] ++
      [keyword "and"].intercalate (clauses.map fun clause => clause.formula.lexemes) := by
    rw [Store.whereLexemes, Store.alternativeLexemes, List.map_singleton,
      List.intercalate_singleton, List.map_map]
    · rfl
    · intro none
      exact nonempty (List.map_eq_nil_iff.mp (List.singleton_inj.mp none))
  rw [written]
  exact opening.append inner

theorem lexes {selection : Selection} (plain : selection.Plain) :
    Lexes selection.render selection.statement.lexemes := by
  have opening : Seals " from " [keyword "from"] :=
    Store.seals_keywords ["from"] (by decide) (by decide)
  have sources := Store.lexes_join seals_separator (by decide) selection.sources
    fun source member => Source.lexes (plain.named source member).1 (plain.named source member).2
  have front := (selection.shape.lexes_head.seal opening (by decide)).append sources
  have written : selection.statement.lexemes =
      (keyword "select" :: (if selection.shape.bindsWork then [keyword "distinct"] else []) ++
        [.value (.path selection.shape.result)] ++ [keyword "from"] ++
        [.comma].intercalate (selection.sources.map Store.sourceLexemes)) ++
        Store.whereLexemes [selection.clauses.map Clause.formula] := by
    rw [Store.Statement.lexemes]
    simp only [List.append_assoc, List.cons_append, List.nil_append]
    rfl
  have clear := plain.clear
  rw [render, written]
  cases clauses : selection.clauses with
  | nil => exact front.append Store.lexes_nil (by decide)
  | cons first more =>
      rw [clauses] at clear
      refine front.append (lexes_clauses (List.cons_ne_nil first more) clear) ?_
      rw [String.toList_append]
      rfl

theorem proper {selection : Selection} (plain : selection.Plain) : selection.statement.Proper := by
  refine ⟨plain.sourced, ?_, ?_⟩
  · change selection.shape.result ≠ ["distinct"]
    cases selection.shape <;> decide
  · rw [statement]
    cases clauses : selection.clauses with
    | nil => exact Or.inl rfl
    | cons first more =>
        refine Or.inr (.ofConditions (List.cons_ne_nil _ _) ?_)
        intro condition member
        rw [<- clauses] at member
        rcases List.mem_map.mp member with ⟨clause, among, same⟩
        rw [<- same]
        exact Clause.proper (plain.clear clause among)

/-- The store reads a written selection as the statement it was built as. -/
theorem read?_render {selection : Selection} (plain : selection.Plain) :
    Store.read? selection.render = some selection.statement :=
  Store.read?_of_lexes (lexes plain) (proper plain)

end Selection

end CorpusQuery
