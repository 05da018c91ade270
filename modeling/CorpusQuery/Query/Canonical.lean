import CorpusQuery.Query
import CorpusQuery.Text.Join
import CorpusQuery.Token

namespace CorpusQuery

/-!
# Canonical text

Every query has one canonical text, without blanks and with every term in full.
The text of a term is written bare when it consists of word characters only,
and quoted otherwise.  Codes of categorical attributes are written as their
letters again.
-/

namespace Canonical

/-- Put a backslash before quotes and backslashes. -/
def escaped : List Char -> List Char
  | [] => []
  | c :: rest => if c = '"' ∨ c = '\\' then '\\' :: c :: escaped rest else c :: escaped rest

def quoted (text : List Char) : List Char :=
  '"' :: (escaped text ++ ['"'])

/-- Text as a token: bare if it can be, else quoted. -/
def payload (text : List Char) : List Char :=
  if text.all isWordChar then text else quoted text

end Canonical

namespace Term

/-- The text of a term as the reader of queries sees it, with braces around a
pattern. -/
def shownText (term : Term) : List Char :=
  let text := (term.attr.encodeText term.text).toList
  if term.isPattern then '{' :: (text ++ ['}']) else text

def canonicalChars (term : Term) : List Char :=
  (if term.negated then ['!'] else []) ++ term.attr.mnemonic.toList ++
    '(' :: (Canonical.payload term.shownText ++ [')'])

def canonical (term : Term) : String :=
  String.ofList term.canonicalChars

end Term

namespace TermSet

def canonicalChars (set : TermSet) : List Char :=
  Text.joinChars ':' (set.terms.map Term.canonicalChars)

def canonical (set : TermSet) : String :=
  String.ofList set.canonicalChars

end TermSet

namespace WordPosition

def canonicalChars (word : WordPosition) : List Char :=
  Text.joinChars ';' (word.sets.map TermSet.canonicalChars)

def canonical (word : WordPosition) : String :=
  String.ofList word.canonicalChars

end WordPosition

namespace Phrase

def canonicalChars (phrase : Phrase) : List Char :=
  Text.joinChars '$' (phrase.words.map WordPosition.canonicalChars)

def canonical (phrase : Phrase) : String :=
  String.ofList phrase.canonicalChars

end Phrase

namespace Query

def canonicalChars (query : Query) : List Char :=
  Text.joinChars '|' (query.phrases.map Phrase.canonicalChars)

def canonical (query : Query) : String :=
  String.ofList query.canonicalChars

end Query

end CorpusQuery
