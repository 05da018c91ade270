import CorpusQuery.Selection
import CorpusQuery.Toml.Reader
import CorpusQuery.Toml.Writer

namespace CorpusQuery

/-!
# Settings

Settings give the shape used when none is asked for, the part-of-speech codes
of the store and the names of its entities.  They are kept as a TOML document.
Whatever the document leaves out has its default, and keys without a meaning
are passed over.
-/

structure Settings where
  defaultShape : ResultShape := .wordId
  /-- Codes as listed, repetitions included. -/
  tags : List String := []
  schema : Schema := {}
  deriving DecidableEq, Repr

namespace Settings

open Toml (Node Entries)

/-- Decode the value of a key, with a default for a missing key. -/
def fieldOr? {α : Type} (entries : Entries) (key : String) (decode? : Node -> Option α)
    (default : α) : Option α :=
  match entries.find? key with
  | none => some default
  | some node => decode? node

def text? : Node -> Option String
  | .text content => some content
  | _ => none

/-- A list or table without members. -/
def isHollow : Node -> Bool
  | .array items => items.isEmpty
  | .inlineTable _ entries => entries.isEmpty
  | .table _ entries => entries.isEmpty
  | .tables elements => elements.isEmpty
  | _ => false

/-- A shape by the only key of a table, which must have no content. -/
def shapeOfEntries? : Entries -> Option ResultShape
  | [(key, node)] => if isHollow node then ResultShape.ofName? key else none
  | _ => none

/-- A shape, given by its exact name as a text or as the key of a table. -/
def shape? : Node -> Option ResultShape
  | .text content => ResultShape.ofName? content
  | .inlineTable _ entries => shapeOfEntries? entries
  | .table _ entries => shapeOfEntries? entries
  | _ => none

def texts? : Node -> Option (List String)
  | .array items => items.mapM text?
  | _ => none

def schemaOfEntries? (entries : Entries) : Option Schema := do
  let defaults : Schema := {}
  return {
    word := ← fieldOr? entries "word" text? defaults.word
    wordPart := ← fieldOr? entries "word_part" text? defaults.wordPart
    work := ← fieldOr? entries "work" text? defaults.work
    workPart := ← fieldOr? entries "work_part" text? defaults.workPart
    successor := ← fieldOr? entries "successor" text? defaults.successor }

/-- Names by their place in a list.  Missing ones have their defaults, and
those behind the fifth are passed over. -/
def schemaOfItems? (items : List Node) : Option Schema := do
  let defaults : Schema := {}
  let names ← (items.take 5).mapM text?
  return {
    word := names[0]?.getD defaults.word
    wordPart := names[1]?.getD defaults.wordPart
    work := names[2]?.getD defaults.work
    workPart := names[3]?.getD defaults.workPart
    successor := names[4]?.getD defaults.successor }

/-- Entity names as a table or as a list.  A date counts as a table without
any of the keys. -/
def schema? : Node -> Option Schema
  | .table _ entries => schemaOfEntries? entries
  | .inlineTable _ entries => schemaOfEntries? entries
  | .array items => schemaOfItems? items
  | .moment => some {}
  | _ => none

def ofEntries? (entries : Entries) : Option Settings := do
  return {
    defaultShape := ← fieldOr? entries "default_shape" shape? .wordId
    tags := ← fieldOr? entries "pos_codes" texts? []
    schema := ← fieldOr? entries "schema" schema? {} }

/-- Settings from a document, none when it is malformed or a value does not
fit its key. -/
def ofToml? (document : String) : Option Settings := do
  ofEntries? (← Toml.read? document)

/-- Settings as a document, every key written out. -/
def toToml (settings : Settings) : String :=
  Toml.writeAssignment "default_shape" settings.defaultShape.name ++
    "pos_codes = " ++ Toml.writeTexts settings.tags ++ "\n\n[schema]\n" ++
    Toml.writeAssignment "word" settings.schema.word ++
    Toml.writeAssignment "word_part" settings.schema.wordPart ++
    Toml.writeAssignment "work" settings.schema.work ++
    Toml.writeAssignment "work_part" settings.schema.workPart ++
    Toml.writeAssignment "successor" settings.schema.successor

/-- The compiler that works by these settings. -/
def compiler (settings : Settings) : Compiler where
  schema := settings.schema
  tags := .ofList settings.tags

end Settings

end CorpusQuery
