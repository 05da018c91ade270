import CorpusQuery.Text.Blank
import CorpusQuery.Text.Decimal

namespace CorpusQuery

/-!
# Tokens

A query is written with words, numbers, quoted texts and seven marks.  A word
is any run of characters other than blanks, marks, double quotes and control
characters, so pattern braces and comparison signs are part of words.  A word
of ASCII digits only is a number.
-/

/-- The marks that structure a query. -/
inductive Mark where
  /-- Negates a term. -/
  | bang
  | openParen
  | closeParen
  /-- Next word of a phrase. -/
  | dollar
  /-- Further term of a set. -/
  | colon
  /-- Further set of a word position. -/
  | semicolon
  /-- Further phrase of a query. -/
  | bar
  deriving DecidableEq, Repr

namespace Mark

def toChar : Mark -> Char
  | .bang => '!'
  | .openParen => '('
  | .closeParen => ')'
  | .dollar => '$'
  | .colon => ':'
  | .semicolon => ';'
  | .bar => '|'

def ofChar? (c : Char) : Option Mark :=
  if c = '!' then some .bang
  else if c = '(' then some .openParen
  else if c = ')' then some .closeParen
  else if c = '$' then some .dollar
  else if c = ':' then some .colon
  else if c = ';' then some .semicolon
  else if c = '|' then some .bar
  else none

end Mark

/-- Characters that may stand in a bare word. -/
def isWordChar (c : Char) : Bool :=
  !Text.isBlank c && (Mark.ofChar? c).isNone && c != '"' && !Text.isControl c

inductive TokenKind where
  | word
  | quoted
  | number
  | mark (mark : Mark)
  | ending
  deriving DecidableEq, Repr

/-- A token with the text it stands for and the offset at which it starts.  The
text of a quoted token is without quotes and escapes. -/
structure Token where
  kind : TokenKind
  text : String
  position : Nat
  deriving DecidableEq, Repr

namespace Token

/-- The end of the input. -/
def ending (position : Nat) : Token :=
  ⟨.ending, "", position⟩

def isEnding (token : Token) : Bool :=
  token.kind = .ending

def isMark (token : Token) (mark : Mark) : Bool :=
  token.kind = .mark mark

/-- Whether the token can be the text of a term. -/
def isText (token : Token) : Bool :=
  token.kind = .word || token.kind = .quoted || token.kind = .number

end Token

end CorpusQuery
