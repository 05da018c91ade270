import CorpusQuery.Text.Ascii
import CorpusQuery.Text.LowerCase

namespace CorpusQuery

/-!
# Result shapes

A shape says what a selection returns for each match.  The two distinct shapes
bind the work and the work part of the first word by name, so that its fields
can be reached without going through the word.
-/

inductive ResultShape where
  /-- The identifier of the first word. -/
  | wordId
  /-- The first word itself. -/
  | fullWord
  /-- Each work with a match. -/
  | distinctWork
  /-- Each work part with a match. -/
  | distinctWorkPart
  deriving DecidableEq, Repr

/-- How the fields of a work or work part are reached from a word position. -/
inductive WorkAccess where
  /-- Through the alias of the word. -/
  | throughWord
  /-- By the name bound for the first word. -/
  | bound
  deriving DecidableEq, Repr

namespace ResultShape

def all : List ResultShape :=
  [.wordId, .fullWord, .distinctWork, .distinctWorkPart]

def name : ResultShape -> String
  | .wordId => "word"
  | .fullWord => "full-word"
  | .distinctWork => "work"
  | .distinctWorkPart => "work-part"

/-- The shape with exactly this name. -/
def ofName? (name : String) : Option ResultShape :=
  all.find? fun shape => shape.name = name

theorem ofName?_name (shape : ResultShape) : ofName? shape.name = some shape := by
  cases shape <;> decide

/-- The form of a written shape in which names are compared. -/
def simplified (text : String) : String :=
  Text.replaceChar '_' '-' (Text.lowerCase text)

/-- The shape meant by a written name, in any case and with either dash. -/
def ofText? (text : String) : Option ResultShape :=
  match simplified text with
  | "word" | "word-id" | "id" => some .wordId
  | "full-word" | "full" | "object" => some .fullWord
  | "work" | "distinct-work" => some .distinctWork
  | "work-part" | "part" | "distinct-work-part" => some .distinctWorkPart
  | _ => none

/-- What is said about a name that means no shape. -/
def unknownMessage (text : String) : String :=
  "unknown result shape '" ++ simplified text ++
    "' (expected word, full-word, work or work-part)"

/-- Whether work and work part are bound by name. -/
def bindsWork : ResultShape -> Bool
  | .distinctWork | .distinctWorkPart => true
  | .wordId | .fullWord => false

/-- The bound work is that of the first word.  Later words reach their own. -/
def workAccess (shape : ResultShape) (index : Nat) : WorkAccess :=
  if shape.bindsWork && index == 0 then .bound else .throughWord

/-- The head of a selection. -/
def head : ResultShape -> String
  | .wordId => "select w0.id"
  | .fullWord => "select w0"
  | .distinctWork => "select distinct work"
  | .distinctWorkPart => "select distinct workPart"

end ResultShape

end CorpusQuery
