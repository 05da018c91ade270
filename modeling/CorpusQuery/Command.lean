import CorpusQuery.Manual
import CorpusQuery.Query.Canonical
import CorpusQuery.Query.Outline
import CorpusQuery.Query.Parser
import CorpusQuery.Selection.Printer
import CorpusQuery.Settings.File

namespace CorpusQuery

/-!
# Commands

Each command yields a text or fails.  Commands that take a query read it from
the standard input when it is not given; blanks around it do not count.  Only
compiling looks at the settings, and it does so before it reads the query.
-/

/-- What a check shows of a valid query. -/
inductive CheckView where
  | canonical
  | outline
  deriving DecidableEq, Repr

inductive Command where
  | check (query : Option String) (view : CheckView)
  | compile (query : Option String) (shape : Option ResultShape) (filter : Option String)
      (format : OutputFormat)
  | attributes
  | contents
  | page (name : String)
  deriving DecidableEq, Repr

inductive Failure where
  | query (fault : Fault)
  | settings (problem : SettingsProblem)
  /-- The standard input is not text. -/
  | unreadableInput
  /-- There is neither a query nor an input to read it from. -/
  | noQuery
  | unknownPage (name : String)
  deriving DecidableEq, Repr

def Failure.message : Failure -> String
  | .query fault => "Parse error: " ++ fault.message
  | .settings problem => "Config error: " ++ problem.message
  | .unreadableInput => "IO error: " ++ notTextReason
  | .noQuery => "No query provided. Pass it as an argument or pipe it to stdin."
  | .unknownPage name =>
    "Unknown category: '" ++ name ++ "'\nRun 'cql docs' to see available categories."

/-- What a command finds around it. -/
structure Surroundings where
  file : String -> FileContent
  /-- The variable that names a settings file. -/
  settingsVariable : Option String
  /-- The standard input, none if it is a terminal. -/
  input : Option ByteArray

namespace Command

variable [Pattern.Engine]

/-- Read a query, blanks around it removed. -/
def parseTrimmed (text : String) : Except Failure Query :=
  (Query.parse (Text.trim text)).mapError .query

def checkText (text : String) (view : CheckView) : Except Failure String := do
  let query ← parseTrimmed text
  return match view with
    | .canonical => query.canonical
    | .outline => query.outline

def compileText (settings : Settings) (text : String) (shape : Option ResultShape)
    (filter : Option String) (format : OutputFormat) : Except Failure String := do
  let query ← parseTrimmed text
  let shape := shape.getD settings.defaultShape
  return Fragment.print format (settings.compiler.compile query shape filter)

def pageText (name : String) : Except Failure String :=
  match Manual.Page.ofName? name with
  | some found => .ok found.content
  | none => .error (.unknownPage name)

/-- A query as given, else from the input. -/
def queryText (query : Option String) (input : Option ByteArray) : Except Failure String :=
  match query, input with
  | some text, _ => .ok text
  | none, none => .error .noQuery
  | none, some bytes =>
    match String.fromUTF8? bytes with
    | some text => .ok text
    | none => .error .unreadableInput

/-- Whether the command reads the standard input. -/
def readsInput : Command -> Bool
  | .check query _ => query.isNone
  | .compile query _ _ _ => query.isNone
  | _ => false

/-- Run a command with the settings file given for it.  The result is what it
prints. -/
def run (surroundings : Surroundings) (settingsPath : Option String) :
    Command -> Except Failure String
  | .check query view => do
    let text ← queryText query surroundings.input
    let answer ← checkText text view
    return match view with
      | .canonical => answer ++ "\n"
      | .outline => answer
  | .compile query shape filter format => do
    let settings ← (Settings.load surroundings.file settingsPath
      surroundings.settingsVariable).mapError .settings
    let text ← queryText query surroundings.input
    return (← compileText settings text shape filter format) ++ "\n"
  | .attributes => .ok Manual.attributeListing
  | .contents => .ok Manual.overview
  | .page name => pageText name

end Command

end CorpusQuery
