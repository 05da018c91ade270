namespace CorpusQuery
namespace Toml

/-!
# TOML documents

A document is a table of named values.  How a table came about decides what may
still be added to it, so tables remember it: one made by a header is complete,
one implied by a longer header may yet get its own header, and one made by a
dotted key may get further keys in the same way.  Inline tables are complete
unless they were made by a dotted key inside another inline table.

Numbers with a fraction and dates are only checked when read; nothing here
depends on their values.
-/

inductive TableOrigin where
  | header
  | implied
  | dotted
  deriving DecidableEq, Repr

inductive Node where
  | text (content : String)
  | integer (value : Int)
  | float
  | boolean (value : Bool)
  | moment
  | array (items : List Node)
  | inlineTable (dotted : Bool) (entries : List (String × Node))
  | table (origin : TableOrigin) (entries : List (String × Node))
  /-- Tables with one name, made by doubled headers. -/
  | tables (elements : List (List (String × Node)))

/-- Named values in order. -/
abbrev Entries := List (String × Node)

namespace Entries

def find? (entries : Entries) (name : String) : Option Node :=
  (List.find? (fun entry => entry.1 = name) entries).map Prod.snd

/-- Replace a value, or add it at the end. -/
def put (name : String) (node : Node) : Entries -> Entries
  | [] => [(name, node)]
  | entry :: rest => if entry.1 = name then (name, node) :: rest else entry :: put name node rest

/-- Add a value under a new name. -/
def add? (entries : Entries) (name : String) (node : Node) : Option Entries :=
  if (entries.find? name).isNone then some (entries ++ [(name, node)]) else none

end Entries

/-- A key with the keys before its last dot. -/
structure KeyPath where
  parents : List String
  key : String

/-- Apply a change to the last of several tables. -/
def changeLast? {α : Type} (change : α -> Option α) : List α -> Option (List α)
  | [] => none
  | [last] => (change last).map ([·])
  | first :: next :: rest => (changeLast? change (next :: rest)).map (first :: ·)

/-- Assign a value inside an inline table. -/
def assignInline? (key : String) (node : Node) : List String -> Entries -> Option Entries
  | [], entries => entries.add? key node
  | parent :: parents, entries =>
    match entries.find? parent with
    | none => do
      let inner ← assignInline? key node parents []
      return entries.put parent (.inlineTable true inner)
    | some (.inlineTable true inner) => do
      let inner ← assignInline? key node parents inner
      return entries.put parent (.inlineTable true inner)
    | some _ => none

/-- Assign a value under a header.  The table that receives it must be the one
of the header or one made by dotted keys. -/
def assign? (key : String) (node : Node) : Bool -> List String -> Entries -> Option Entries
  | mayReceive, [], entries => if mayReceive then entries.add? key node else none
  | _, parent :: parents, entries =>
    match entries.find? parent with
    | none => do
      let inner ← assign? key node true parents []
      return entries.put parent (.table .dotted inner)
    | some (.table .dotted inner) => do
      let inner ← assign? key node true parents inner
      return entries.put parent (.table .dotted inner)
    | some (.table .implied inner) => do
      let inner ← assign? key node false parents inner
      return entries.put parent (.table .implied inner)
    | some (.tables elements) => do
      let elements ← changeLast? (assign? key node false parents) elements
      return entries.put parent (.tables elements)
    | some _ => none

/-- Change the table that the parents of a header lead to.  Missing tables on
the way are implied. -/
def changeAt? (change : Entries -> Option Entries) : List String -> Entries -> Option Entries
  | [], entries => change entries
  | parent :: parents, entries =>
    match entries.find? parent with
    | none => do
      return entries.put parent (.table .implied (← changeAt? change parents []))
    | some (.table origin inner) => do
      return entries.put parent (.table origin (← changeAt? change parents inner))
    | some (.tables elements) => do
      return entries.put parent (.tables (← changeLast? (changeAt? change parents) elements))
    | some _ => none

structure Assignment where
  path : KeyPath
  node : Node

/-- A header, single or doubled, with the assignments under it. -/
structure Section where
  doubled : Bool
  path : KeyPath
  assignments : List Assignment

/-- Make assignments one after another. -/
def assignAll? (assignments : List Assignment) (entries : Entries) : Option Entries :=
  assignments.foldlM
    (fun entries assignment =>
      assign? assignment.path.key assignment.node true assignment.path.parents entries)
    entries

namespace Section

/-- Fill the table of a single header.  Only an implied table may be there. -/
def fill? (part : Section) (entries : Entries) : Option Entries :=
  match entries.find? part.path.key with
  | none => do
    return entries.put part.path.key (.table .header (← assignAll? part.assignments []))
  | some (.table .implied inner) => do
    return entries.put part.path.key
      (.table .header (← assignAll? part.assignments inner))
  | some _ => none

/-- Append the table of a doubled header to those before it. -/
def append? (part : Section) (entries : Entries) : Option Entries :=
  match entries.find? part.path.key with
  | none => do
    return entries.put part.path.key (.tables [← assignAll? part.assignments []])
  | some (.tables elements) => do
    return entries.put part.path.key
      (.tables (elements ++ [← assignAll? part.assignments []]))
  | some _ => none

def place? (part : Section) (entries : Entries) : Option Entries :=
  changeAt? (if part.doubled then part.append? else part.fill?)
    part.path.parents entries

end Section

/-- The lines of a document: the assignments before any header, and the
sections. -/
structure Outline where
  assignments : List Assignment
  sections : List Section

/-- The table of a document, none when a name is given twice. -/
def Outline.entries? (outline : Outline) : Option Entries := do
  let top ← assignAll? outline.assignments []
  outline.sections.foldlM (fun entries part => part.place? entries) top

end Toml
end CorpusQuery
