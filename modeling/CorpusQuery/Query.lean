import CorpusQuery.Attribute

namespace CorpusQuery

/-!
# Queries

A query is a list of alternative phrases, a phrase a list of consecutive word
positions, a word position a list of alternative term sets, and a term set a
list of terms that must all hold.  None of these lists is ever empty, which is
why each keeps its first member apart.

Term sets and word positions do not keep a member that is already there.
Phrases and queries do: saying the same word twice asks for it twice.
-/

/-- A test of one attribute at one word position. -/
structure Term where
  attr : Attribute
  /-- The literal or pattern.  Pattern braces are removed, and the letters of a
  categorical attribute are replaced by their codes. -/
  text : String
  negated : Bool := false
  isPattern : Bool := false
  deriving DecidableEq, Repr

namespace Term

/-- A term without text constrains nothing. -/
def isEmpty (term : Term) : Bool :=
  term.text.isEmpty

/-- Whether the term needs the word-part join of its position. -/
def needsJoin (term : Term) : Bool :=
  !term.isEmpty && term.attr.entity.needsJoin

end Term

/-- Terms that must all hold. -/
structure TermSet where
  first : Term
  more : List Term := []
  deriving DecidableEq, Repr

namespace TermSet

def terms (set : TermSet) : List Term :=
  set.first :: set.more

/-- Add a term unless it is there. -/
def push (set : TermSet) (term : Term) : TermSet :=
  if term ∈ set.terms then set else { set with more := set.more ++ [term] }

def size (set : TermSet) : Nat :=
  set.terms.length

def isEmpty (set : TermSet) : Bool :=
  set.terms.all Term.isEmpty

def needsJoin (set : TermSet) : Bool :=
  set.terms.any Term.needsJoin

end TermSet

/-- Alternative term sets for one word. -/
structure WordPosition where
  first : TermSet
  more : List TermSet := []
  deriving DecidableEq, Repr

namespace WordPosition

def sets (word : WordPosition) : List TermSet :=
  word.first :: word.more

/-- Add an alternative unless it is there. -/
def push (word : WordPosition) (set : TermSet) : WordPosition :=
  if set ∈ word.sets then word else { word with more := word.more ++ [set] }

def terms (word : WordPosition) : List Term :=
  word.sets.flatMap TermSet.terms

def isEmpty (word : WordPosition) : Bool :=
  word.sets.all TermSet.isEmpty

def needsJoin (word : WordPosition) : Bool :=
  word.sets.any TermSet.needsJoin

end WordPosition

/-- Words that follow each other. -/
structure Phrase where
  first : WordPosition
  more : List WordPosition := []
  deriving DecidableEq, Repr

namespace Phrase

def words (phrase : Phrase) : List WordPosition :=
  phrase.first :: phrase.more

def push (phrase : Phrase) (word : WordPosition) : Phrase :=
  { phrase with more := phrase.more ++ [word] }

/-- The number of words in a row that the phrase asks for. -/
def size (phrase : Phrase) : Nat :=
  phrase.words.length

end Phrase

/-- Alternative phrases. -/
structure Query where
  first : Phrase
  more : List Phrase := []
  deriving DecidableEq, Repr

namespace Query

def phrases (query : Query) : List Phrase :=
  query.first :: query.more

def push (query : Query) (phrase : Phrase) : Query :=
  { query with more := query.more ++ [phrase] }

end Query

end CorpusQuery
