import CorpusQuery.Unicode.Case
import CorpusQuery.Unicode.Property

namespace CorpusQuery
namespace Text

/-!
# Lower case

Names on the command line and in requests are compared in lower case.  The
conversion is the full one: a character may become two, and the capital sigma
depends on its place.  At the end of a word, that is after a cased letter and
not before one, it becomes the final form.  Case-ignorable characters do not
count when looking for those letters.
-/

namespace LowerCase

/-- Whether the first character that counts is a cased letter. -/
def startsCased (chars : List Char) : Bool :=
  match chars.dropWhile fun c => Unicode.Property.caseIgnorable c.toNat with
  | [] => false
  | c :: _ => Unicode.Property.cased c.toNat

/-- Lower case of one character between what precedes it, nearest first, and
what follows it. -/
def charAt (before : List Char) (c : Char) (after : List Char) : List Char :=
  if c = 'Σ' then
    if startsCased before && !startsCased after then ['ς'] else ['σ']
  else (Unicode.lowerCase c.toNat).map Char.ofNat

def charsAfter (before : List Char) : List Char -> List Char
  | [] => []
  | c :: rest => charAt before c rest ++ charsAfter (c :: before) rest

end LowerCase

def lowerCase (text : String) : String :=
  String.ofList (LowerCase.charsAfter [] text.toList)

end Text
end CorpusQuery
