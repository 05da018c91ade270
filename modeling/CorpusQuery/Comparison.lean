import CorpusQuery.Text.Blank
import CorpusQuery.Text.Decimal

namespace CorpusQuery

/-!
# Comparisons

The text of a numeric term is an integer with a relation before it, as in
`>=1600`.  Without a relation the numbers must be equal.  Blanks around the
text and between relation and number are ignored.
-/

inductive Relation where
  | equal
  | notEqual
  | less
  | lessOrEqual
  | greater
  | greaterOrEqual
  deriving DecidableEq, Repr

/-- How the store writes a relation. -/
def Relation.sign : Relation -> String
  | .equal => "="
  | .notEqual => "<>"
  | .less => "<"
  | .lessOrEqual => "<="
  | .greater => ">"
  | .greaterOrEqual => ">="

namespace Comparison

def isSignChar (c : Char) : Bool :=
  c = '<' || c = '>' || c = '=' || c = '!'

/-- The relation written by a run of sign characters. -/
def relation? : List Char -> Option Relation
  | [] | ['='] | ['=', '='] => some .equal
  | ['<', '>'] | ['!', '='] => some .notEqual
  | ['<'] => some .less
  | ['<', '='] => some .lessOrEqual
  | ['>'] => some .greater
  | ['>', '='] => some .greaterOrEqual
  | _ => none

/-- Split text into relation and operand.  All sign characters at the start
belong to the relation. -/
def splitChars? (text : List Char) : Option (Relation × Int) := do
  let trimmed := Text.trimChars text
  let relation ← relation? (trimmed.takeWhile isSignChar)
  let operand ← Text.integer64? (Text.trimChars (trimmed.dropWhile isSignChar))
  return (relation, operand)

end Comparison

/-- The relation and the operand of a numeric term. -/
def splitComparison? (text : String) : Option (Relation × Int) :=
  Comparison.splitChars? text.toList

end CorpusQuery
