import CorpusQuery.Selection.Condition

namespace CorpusQuery

/-!
# Selections

A phrase becomes one selection.  Its word positions bind the aliases `w0`,
`w1`, ...; position `i` is tied to the first one by following the successor
property `i` times.  A position that tests a part of its word binds `wp` with
its index as well.  A position other than the first that neither constrains
anything nor needs a join is left out.

The selection is built as data: what it returns, what it draws from, and its
clauses in order.  A fragment is the written selection together with the
aliases it binds.
-/

/-- The names of the store's entities, and the property that leads from a word
to the next. -/
structure Schema where
  word : String := "Word"
  wordPart : String := "WordPart"
  work : String := "Work"
  workPart : String := "WorkPart"
  successor : String := "next"
  deriving DecidableEq, Repr

/-- An entity and the alias it is bound to. -/
structure Source where
  entity : String
  name : String
  deriving DecidableEq, Repr

def Source.render (source : Source) : String :=
  source.entity ++ " " ++ source.name

inductive Clause where
  /-- A condition supplied from outside, written as it is. -/
  | filter (text : String)
  /-- Two paths that lead to the same thing. -/
  | binding (left right : String)
  /-- What a word position asks for. -/
  | constraint (alternatives : Disjunction)
  deriving Repr

def Clause.render : Clause -> String
  | .filter text => "(" ++ text ++ ")"
  | .binding left right => left ++ " = " ++ right
  | .constraint alternatives => Condition.renderAny alternatives

structure Selection where
  shape : ResultShape
  sources : List Source
  clauses : List Clause

def Selection.render (selection : Selection) : String :=
  selection.shape.head ++ " from " ++ Text.join ", " (selection.sources.map Source.render) ++
    match selection.clauses with
    | [] => ""
    | clauses => " where " ++ Text.join " and " (clauses.map Clause.render)

/-- The written selection of one phrase. -/
structure Fragment where
  /-- Index of the phrase in its query. -/
  phrase : Nat
  shape : ResultShape
  wordAliases : List String
  partAliases : List String
  text : String
  deriving DecidableEq, Repr

/-- The alias of a word position. -/
def wordAlias (index : Nat) : String :=
  "w" ++ Nat.repr index

/-- The alias of the part of a word. -/
def partAlias (index : Nat) : String :=
  "wp" ++ Nat.repr index

/-- What a word position contributes to a selection. -/
structure BoundWord where
  index : Nat
  needsJoin : Bool
  condition? : Option Disjunction

namespace BoundWord

/-- Whether the position is left out. -/
def isIdle (word : BoundWord) : Bool :=
  word.index != 0 && word.condition?.isNone && !word.needsJoin

def sources (schema : Schema) (word : BoundWord) : List Source :=
  ⟨schema.word, wordAlias word.index⟩ ::
    if word.needsJoin then [⟨schema.wordPart, partAlias word.index⟩] else []

def bindings (schema : Schema) (word : BoundWord) : List Clause :=
  (if word.index = 0 then []
    else [.binding (wordAlias word.index)
      ("w0" ++ Text.repeated ("." ++ schema.successor) word.index)]) ++
  if word.needsJoin then
    [.binding (partAlias word.index ++ ".word") (wordAlias word.index)]
  else []

def constraints (word : BoundWord) : List Clause :=
  word.condition?.toList.map .constraint

end BoundWord

variable [Pattern.Engine]

/-- Everything that turning queries into selections depends on. -/
structure Compiler where
  schema : Schema := {}
  tags : TagSet := .empty

namespace Compiler

def scopeAt (compiler : Compiler) (shape : ResultShape) (index : Nat) : Scope where
  wordAlias := wordAlias index
  index := index
  access := shape.workAccess index
  tags := compiler.tags

/-- The positions of a phrase from a given index on. -/
def wordsFrom (compiler : Compiler) (shape : ResultShape) :
    Nat -> List WordPosition -> List BoundWord
  | _, [] => []
  | index, word :: rest =>
    ⟨index, word.needsJoin, word.condition? (compiler.scopeAt shape index)⟩ ::
      compiler.wordsFrom shape (index + 1) rest

/-- The positions of a phrase that take part in its selection. -/
def boundWords (compiler : Compiler) (shape : ResultShape) (phrase : Phrase) : List BoundWord :=
  (compiler.wordsFrom shape 0 phrase.words).filter fun word => !word.isIdle

/-- The clause of a filter.  Blanks around it are removed, and a blank filter
is none. -/
def filterClauses (filter : Option String) : List Clause :=
  match filter.map Text.trim with
  | none => []
  | some text => if text.isEmpty then [] else [.filter text]

def workSources (schema : Schema) (shape : ResultShape) : List Source :=
  if shape.bindsWork then [⟨schema.work, "work"⟩, ⟨schema.workPart, "workPart"⟩] else []

def workBindings (shape : ResultShape) : List Clause :=
  if shape.bindsWork then
    [.binding "w0.work" "work", .binding "w0.workPart" "workPart"]
  else []

/-- The selection of a phrase: the filter, the bindings and then what each
position asks for. -/
def selection (compiler : Compiler) (shape : ResultShape) (filter : Option String)
    (phrase : Phrase) : Selection :=
  let words := compiler.boundWords shape phrase
  { shape := shape
    sources := workSources compiler.schema shape ++
      words.flatMap (BoundWord.sources compiler.schema)
    clauses := filterClauses filter ++ workBindings shape ++
      words.flatMap (BoundWord.bindings compiler.schema) ++ words.flatMap BoundWord.constraints }

def compilePhrase (compiler : Compiler) (index : Nat) (phrase : Phrase) (shape : ResultShape)
    (filter : Option String) : Fragment :=
  let words := compiler.boundWords shape phrase
  { phrase := index
    shape := shape
    wordAliases := words.map fun word => wordAlias word.index
    partAliases := (words.filter BoundWord.needsJoin).map fun word => partAlias word.index
    text := (compiler.selection shape filter phrase).render }

/-- Fragments of phrases with consecutive indices. -/
def compileFrom (compiler : Compiler) (shape : ResultShape) (filter : Option String) :
    Nat -> List Phrase -> List Fragment
  | _, [] => []
  | index, phrase :: rest =>
    compiler.compilePhrase index phrase shape filter ::
      compiler.compileFrom shape filter (index + 1) rest

/-- One fragment for each phrase, in order. -/
def compile (compiler : Compiler) (query : Query) (shape : ResultShape)
    (filter : Option String) : List Fragment :=
  compiler.compileFrom shape filter 0 query.phrases

end Compiler

end CorpusQuery
