import CorpusQuery.Attribute
import CorpusQuery.Selection.Shape
import CorpusQuery.Selection.TagSet

namespace CorpusQuery

/-!
# Scopes and fields

A term is turned into a condition at one word position.  The scope is what the
condition needs to know of that position: the alias of the word, the index of
the position, how work fields are reached, and the known codes.

Fields are named by templates.  In a template `%w` is the word alias, `%i` the
index, and `%p` the way to the work: the alias and a dot, or nothing where the
work is bound by name.  A percent sign before anything else is itself.
-/

structure Scope where
  wordAlias : String
  index : Nat
  access : WorkAccess
  tags : TagSet

namespace Scope

/-- The text of the work placeholder. -/
def workPath (scope : Scope) : List Char :=
  match scope.access with
  | .throughWord => scope.wordAlias.toList ++ ['.']
  | .bound => []

/-- Fill in a template. -/
def expandChars (scope : Scope) : List Char -> List Char
  | [] => []
  | ['%'] => ['%']
  | '%' :: c :: rest =>
    (if c = 'w' then scope.wordAlias.toList
      else if c = 'i' then (Nat.repr scope.index).toList
      else if c = 'p' then scope.workPath
      else ['%', c]) ++ scope.expandChars rest
  | c :: rest => c :: scope.expandChars rest

def expand (scope : Scope) (template : String) : String :=
  String.ofList (scope.expandChars template.toList)

/-- The field of an attribute. -/
def field (scope : Scope) (attr : Attribute) : String :=
  scope.expand attr.entry.template

end Scope

end CorpusQuery
