import CorpusQuery.Json.Value
import CorpusQuery.Selection

namespace CorpusQuery

/-!
# Printing fragments

Fragments are printed one on a line, or as a JSON list of records in either
layout.
-/

inductive OutputFormat where
  | lines
  | json
  | prettyJson
  deriving DecidableEq, Repr

namespace Fragment

def toJson (fragment : Fragment) : Json.Value :=
  .record
    [("phrase", .natural fragment.phrase),
      ("shape", .text fragment.shape.name),
      ("word_aliases", .list (fragment.wordAliases.map .text)),
      ("part_aliases", .list (fragment.partAliases.map .text)),
      ("text", .text fragment.text)]

def printLines (fragments : List Fragment) : String :=
  Text.join "\n" (fragments.map Fragment.text)

def printJson (fragments : List Fragment) : String :=
  (Json.Value.list (fragments.map toJson)).compact

def printPrettyJson (fragments : List Fragment) : String :=
  (Json.Value.list (fragments.map toJson)).indented 0

def print (format : OutputFormat) (fragments : List Fragment) : String :=
  match format with
  | .lines => printLines fragments
  | .json => printJson fragments
  | .prettyJson => printPrettyJson fragments

end Fragment

end CorpusQuery
