import CorpusQuery.Command.Arguments
import CorpusQuery.Pattern.Standard

namespace CorpusQuery

/-!
# Outcomes

A run of the program ends with an answer, with a failure, or without having
started a command.  The exit code tells these apart: zero for an answer, one
for a failure and two for arguments that are not understood.
-/

inductive Outcome where
  | answer (text : String)
  | failure (cause : Failure)
  | misuse
  deriving DecidableEq, Repr

namespace Outcome

def versionText : String := "cql 0.1.0\n"

def usageText : String :=
  "Usage: cql [-c FILE] [-v] COMMAND

Commands:
  check [QUERY] [--tree]
  compile [QUERY] [-s SHAPE] [-f FILTER] [--json] [-p]
  attributes
  docs
  doc CATEGORY
"

def exitCode : Outcome -> Nat
  | .answer _ => 0
  | .failure _ => 1
  | .misuse => 2

/-- What goes to the standard output. -/
def output : Outcome -> String
  | .answer text => text
  | _ => ""

/-- What goes to the standard error. -/
def errors : Outcome -> String
  | .answer _ => ""
  | .failure cause => cause.message ++ "\n"
  | .misuse => usageText

def ofResult : Except Failure String -> Outcome
  | .ok text => .answer text
  | .error cause => .failure cause

def ofInterruption : Arguments.Interruption -> Outcome
  | .usage => .misuse
  | .version => .answer versionText

/-- Run the program on its arguments. -/
def ofArguments (surroundings : Surroundings) (arguments : List String) : Outcome :=
  match Arguments.read arguments with
  | .error interruption => ofInterruption interruption
  | .ok invocation => ofResult (invocation.command.run surroundings invocation.settingsPath)

end Outcome

end CorpusQuery
