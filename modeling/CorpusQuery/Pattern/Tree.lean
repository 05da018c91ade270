namespace CorpusQuery
namespace Pattern

/-!
# Written patterns

The tree of a pattern as it is written, before flags are applied and classes
are looked up.  Bracketed classes form a tree of their own, because they nest
and combine by set operations.  Greediness is not kept: only whether a pattern
occurs in a text is ever asked, and there it makes no difference.
-/

/-- A switch that `(?...)` turns on or off. -/
inductive Flag where
  | caseless
  | multiLine
  | dotAll
  | swapGreed
  | unicode
  | crlf
  | verbose
  deriving DecidableEq, Repr

/-- Switches in the order written, each with its new state. -/
abbrev FlagChange := List (Flag × Bool)

/-- A single character.  A two-digit hexadecimal escape names a byte rather
than a character when Unicode is switched off. -/
structure Literal where
  char : Char
  namesByte : Bool := false

inductive Shorthand where
  | digit
  | space
  | word
  deriving DecidableEq, Repr

/-- What stands after `\p`: a name alone, or a property with a value. -/
inductive PropertyQuery where
  | named (name : String)
  | valued (property value : String)

inductive SetOperation where
  | intersection
  | difference
  | symmetricDifference
  deriving DecidableEq, Repr

inductive ClassTree where
  | nothing
  | literal (literal : Literal)
  | range (low high : Literal)
  | ascii (negated : Bool) (ranges : List (Nat × Nat))
  | property (negated : Bool) (query : PropertyQuery)
  | shorthand (negated : Bool) (kind : Shorthand)
  | bracket (negated : Bool) (body : ClassTree)
  | union (items : List ClassTree)
  | combined (operation : SetOperation) (left right : ClassTree)

inductive Assertion where
  | lineStart
  | lineEnd
  | textStart
  | textEnd
  | wordBoundary
  | notWordBoundary
  | wordStart
  | wordEnd
  | wordStartHalf
  | wordEndHalf
  deriving DecidableEq, Repr

inductive Tree where
  | nothing
  | flags (change : FlagChange)
  | literal (literal : Literal)
  | anyChar
  | assertion (assertion : Assertion)
  | charClass (tree : ClassTree)
  | repeated (body : Tree) (least : Nat) (most : Option Nat)
  | group (captures : Bool) (change : FlagChange) (body : Tree)
  | alternation (branches : List Tree)
  | sequence (items : List Tree)

namespace ClassTree

/-- A list of items as one class. -/
def ofItems : List ClassTree -> ClassTree
  | [] => .nothing
  | [item] => item
  | items => .union items

mutual

/-- How deep brackets, lists of items and set operations nest. -/
def depth : ClassTree -> Nat
  | .bracket _ body => body.depth + 1
  | .union items => depthOfItems items + 1
  | .combined _ left right => max left.depth right.depth + 1
  | _ => 0

def depthOfItems : List ClassTree -> Nat
  | [] => 0
  | item :: rest => max item.depth (depthOfItems rest)

end

end ClassTree

namespace Tree

def ofItems : List Tree -> Tree
  | [] => .nothing
  | [item] => item
  | items => .sequence items

def ofBranches : List Tree -> Tree
  | [branch] => branch
  | branches => .alternation branches

/-- Whether a repetition may follow. -/
def isRepeatable : Tree -> Bool
  | .nothing | .flags _ => false
  | _ => true

mutual

/-- How deep groups, repetitions, alternations, sequences and classes nest. -/
def depth : Tree -> Nat
  | .charClass tree => tree.depth
  | .repeated body _ _ => body.depth + 1
  | .group _ _ body => body.depth + 1
  | .alternation branches => depthOfItems branches + 1
  | .sequence items => depthOfItems items + 1
  | _ => 0

def depthOfItems : List Tree -> Nat
  | [] => 0
  | item :: rest => max item.depth (depthOfItems rest)

end

end Tree

/-- Patterns that nest deeper than this are refused. -/
def maxDepth : Nat := 250

end Pattern
end CorpusQuery
