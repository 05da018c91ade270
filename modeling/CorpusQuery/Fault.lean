import CorpusQuery.Text.Escaped

namespace CorpusQuery

/-!
# Faults

Reading a query stops at the first fault.  A fault says what is wrong, shows
the offending text and the text before it, and gives the offset in characters,
so that a caller can point at the place.
-/

/-- What can be wrong with a query. -/
inductive Cause where
  | invalidEscape (c : Char)
  | unterminatedText
  | unexpectedChar (c : Char)
  /-- A token that cannot stand where it was found. -/
  | badElement
  /-- The input ends inside a term. -/
  | endsTooSoon
  /-- A name before a parenthesis that names no attribute. -/
  | unknownAttribute
  /-- A value that the attribute does not have. -/
  | badCategory
  /-- An attribute that needs a value was given none. -/
  | emptyTerm
  /-- Text marked as a pattern that is none. -/
  | badPattern
  /-- An operand that is not an integer. -/
  | badNumber
  deriving DecidableEq, Repr

/-- The step of reading at which a fault arises. -/
inductive Stage where
  | lexical
  | grammatical
  | semantic
  deriving DecidableEq, Repr

namespace Cause

def stage : Cause -> Stage
  | .invalidEscape _ | .unterminatedText | .unexpectedChar _ => .lexical
  | .badElement | .endsTooSoon | .unknownAttribute => .grammatical
  | .badCategory | .emptyTerm | .badPattern | .badNumber => .semantic

def description : Cause -> String
  | .invalidEscape c => "invalid escape sequence \\" ++ String.singleton c
  | .unterminatedText => "unterminated string literal"
  | .unexpectedChar c => "unexpected character " ++ Text.escapedChar c
  | .badElement => "bad element"
  | .endsTooSoon => "term ends too soon"
  | .unknownAttribute => "bad term type"
  | .badCategory => "bad category value"
  | .emptyTerm => "empty mandatory term"
  | .badPattern => "bad regular expression"
  | .badNumber => "bad numeric value"

end Cause

def Stage.name : Stage -> String
  | .lexical => "Lexical"
  | .grammatical => "Syntax"
  | .semantic => "Semantic"

structure Fault where
  cause : Cause
  /-- The offending text. -/
  fragment : String
  /-- The text of the query before it. -/
  parsed : String
  /-- Offset in characters. -/
  position : Nat
  deriving DecidableEq, Repr

def Fault.message (fault : Fault) : String :=
  fault.cause.stage.name ++ " error at position " ++ Nat.repr fault.position ++ ": " ++
    fault.cause.description ++ " (near \"" ++ fault.fragment ++ "\", after \"" ++ fault.parsed ++
    "\")"

end CorpusQuery
