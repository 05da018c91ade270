import CorpusQuery.Attribute
import CorpusQuery.Text.Ascii
import CorpusQuery.Text.Join
import CorpusQuery.Text.LowerCase

namespace CorpusQuery

/-!
# The manual

The command line explains the query language itself: an overview, four pages,
and the table of attributes, which is made from their entries.  A page is asked
for by its name or by one of a few other names.
-/

namespace Manual

inductive Page where
  | grammar
  | attributes
  | shapes
  | errors
  deriving DecidableEq, Repr

/-- The page meant by a name, in any case and with either dash. -/
def Page.ofName? (name : String) : Option Page :=
  match Text.replaceChar '-' '_' (Text.lowerCase name) with
  | "syntax" | "grammar" => some .grammar
  | "attributes" | "attribute" | "attrs" | "mnemonics" => some .attributes
  | "shapes" | "shape" | "output" => some .shapes
  | "errors" | "error" => some .errors
  | _ => none

/-- The values that a domain accepts. -/
def acceptedValues : ValueDomain -> String
  | .text => "text or \x7bregex\x7d"
  | .externalCodes => "code or \x7bregex\x7d"
  | .numeric => "[op]integer, op one of = <> < <= > >="
  | .categorical _ | .presence _ => "letter or \x7bregex\x7d"

def attributeLine (attr : Attribute) : String :=
  "  " ++ Text.padRight 5 attr.mnemonic ++ " " ++ Text.padRight 38 attr.entry.description ++ " " ++
    acceptedValues attr.domain ++ "\n"

/-- The table of all attributes. -/
def attributeListing : String :=
  "ATTRIBUTES\n\n" ++ Text.join "" (Attribute.all.map attributeLine)

def overview : String :=
  "CQL DOCUMENTATION

CQL describes word patterns over a tagged corpus. Each query compiles to one
query fragment per phrase; the fragments are run separately and their results
combined.

DOCUMENTATION CATEGORIES

  syntax            Terms, term sets, word positions, phrases and alternatives
  attributes        Attribute mnemonics and the values they accept
  shapes            Result shapes and the fragments they produce
  errors            Error kinds and what triggers them

QUICK REFERENCE

  spe(love)         Spelling is \"love\"
  love              Same as spe(love)
  !spe(love)        Spelling is not \"love\"
  spe(\x7b^lov\x7d)       Spelling matches the regex ^lov
  lem(love):pos(n)  Both hold (and)
  spe(a);spe(an)    Either holds (or)
  spe(the)$spe(cat) \"the\" immediately followed by \"cat\"
  spe(thee)|spe(thou)  Two alternative phrases

Run 'cql doc <category>' for detailed documentation.
Run 'cql attributes' for the full attribute table.
"

def grammarPage : String :=
  "SYNTAX - Query Structure

GRAMMAR
  query      := phrase ('|' phrase)*
  phrase     := word ('$' word)*
  word       := term-set (';' term-set)*
  term-set   := term (':' term)*
  term       := ['!'] mnemonic '(' [text] ')'  |  bare-word
  text       := literal | '\x7b' regex '\x7d'

TERMS
  mnemonic(text)
    Tests one attribute of a word. Text is a bare word, a number, or a
    double-quoted literal. Quote text containing spaces or any of !()$:;|

    Example:
      spe(love)
      wtf(\"The Tempest\")

  !mnemonic(text)
    Negated test.

  mnemonic(\x7bregex\x7d)
    The text is a regular expression, matched anywhere in the value.

    Example:
      spe(\x7b^bu\x7d)
      lem(\"\x7b^(un|in)\x7d\")

  mnemonic()
    Empty test; constrains nothing.

  word
    A bare word on its own is a spelling test: love is spe(love).

COMBINING
  :    all terms hold for the same word       lem(love):pos(n)
  ;    any term set holds for the word         spe(a);spe(an)
  $    next word in the text                   spe(the)$spe(cat)
  |    alternative phrases                     spe(thee)|spe(thou)

  Precedence, tightest first: :  ;  $  |
"

def shapesPage : String :=
  "SHAPES - Result Shapes

  word         select w0.id              identifier of the first matched word
  full-word    select w0                 first matched word as an object
  work         select distinct work      each work containing a match
  work-part    select distinct workPart  each work part containing a match

Each phrase of a query compiles to its own fragment. Word positions bind
aliases w0, w1, ... tied to w0 through the successor property. Positions
testing lemma, part of speech or word class also join a word part wp<i>.
Positions that constrain nothing are left out.

Example:
  Query:    spe(the)$lem(cat)
  Fragment: select w0.id from Word w0, Word w1, WordPart wp1
            where w1 = w0.next and wp1.word = w1
            and ((w0.spellingInsensitive.string = 'the'))
            and ((wp1.lemPos.lemma.tagInsensitive.string = 'cat'))
"

def errorsPage : String :=
  "ERRORS - Error Kinds

LEXICAL
  unterminated string literal    \"abc
  invalid escape sequence        \"a\\n\"  (only \\\" and \\\\ are allowed)
  unexpected character           control characters

SYNTAX
  bad element                    a token where none is allowed: spe(a))
  term ends too soon             input ends inside a term: spe(a
  bad term type                  unknown mnemonic: xyz(a)

SEMANTIC
  bad category value             spg(x)  (gender takes m, f or u)
  empty mandatory term           spg()   pye()
  bad regular expression         spe(\x7ba(\x7d)
  bad numeric value              pye(soon)

Every error reports the offending text and the query text before it.
"

def Page.content : Page -> String
  | .grammar => grammarPage
  | .attributes => attributeListing
  | .shapes => shapesPage
  | .errors => errorsPage

end Manual

end CorpusQuery
