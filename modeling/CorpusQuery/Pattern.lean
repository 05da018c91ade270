namespace CorpusQuery

/-!
# Patterns

A pattern is a regular expression that a term may carry instead of literal
text.  Terms need two things of it: whether a text is a pattern at all, and in
which codes a pattern occurs.  An engine answers both.  Reading and compiling
queries know nothing else about patterns, so what holds of them holds with
every engine.
-/

/-- A pattern by the texts in which it occurs. -/
structure Pattern where
  occursIn : String -> Bool

namespace Pattern

class Engine where
  /-- Read a pattern, none when the text is not one. -/
  compile? : String -> Option Pattern

export Engine (compile?)

/-- Whether a text is a pattern. -/
def isValid [Engine] (text : String) : Bool :=
  (compile? text).isSome

end Pattern
end CorpusQuery
