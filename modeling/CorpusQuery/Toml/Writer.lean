import CorpusQuery.Text.Hexadecimal
import CorpusQuery.Text.Join

namespace CorpusQuery
namespace Toml

/-!
# Writing TOML

A text is written in the first of five forms that suits it.  Plain double
quotes come first, then the other kinds of quotes as far as they need no
escapes, and escapes last.  A form with three quotes starts with a line break
when the text has one in it.
-/

namespace Writer

/-- Characters that need an escape in every form: control characters other
than the tabulator and the line break. -/
def isCode (c : Char) : Bool :=
  (c.toNat < 0x20 && c != '\t' && c != '\n') || c.toNat == 0x7F

/-- Whether a text has so many of a character in a row. -/
def hasRun (c : Char) (length : Nat) : Nat -> List Char -> Bool
  | seen, [] => length ≤ seen
  | seen, first :: rest =>
    length ≤ seen || hasRun c length (if first = c then seen + 1 else 0) rest

/-- A character by its number in four hexadecimal digits. -/
def numbered (c : Char) : List Char :=
  '\\' :: 'u' :: (Text.hexDigits 4 c.toNat).map Char.toUpper

/-- The form of a character between double quotes, quotes and line breaks
apart. -/
def escapedChar (c : Char) : List Char :=
  if c = '\x08' then ['\\', 'b']
  else if c = '\t' then ['\\', 't']
  else if c = '\x0c' then ['\\', 'f']
  else if c = '\r' then ['\\', 'r']
  else if c = '\\' then ['\\', '\\']
  else if isCode c then numbered c
  else [c]

/-- The form of any character between double quotes on one line. -/
def basicChar (c : Char) : List Char :=
  if c = '"' then ['\\', '"'] else if c = '\n' then ['\\', 'n'] else escapedChar c

/-- Text between double quotes on one line. -/
def basicBody (text : List Char) : List Char :=
  text.flatMap basicChar

/-- Text between three double quotes.  The third quote in a row is escaped; the
number counts those before. -/
def longBody : Nat -> List Char -> List Char
  | _, [] => []
  | run, c :: rest =>
    if c = '"' then
      if run < 2 then '"' :: longBody (run + 1) rest else '\\' :: '"' :: longBody 0 rest
    else if c = '\n' then '\n' :: longBody 0 rest
    else escapedChar c ++ longBody 0 rest

/-- Put three quotes on both sides, with a line break if the text has one. -/
def inThree (quote : Char) (text body : List Char) : List Char :=
  [quote, quote, quote] ++ (if text.contains '\n' then ['\n'] else []) ++ body ++
    [quote, quote, quote]

def inDouble (text : List Char) : List Char :=
  '"' :: (basicBody text ++ ['"'])

/-- A text in the first form that suits it. -/
def textChars (text : List Char) : List Char :=
  let hasCodes := text.any isCode
  let hasBreak := text.contains '\n'
  if !hasCodes && !text.contains '\\' && !text.contains '"' && !hasBreak then inDouble text
  else if !hasCodes && !text.contains '\'' && !hasBreak then '\'' :: (text ++ ['\''])
  else if !hasCodes && !text.contains '\\' && !hasRun '"' 3 0 text then
    inThree '"' text (longBody 0 text)
  else if !hasCodes && !hasRun '\'' 3 0 text then inThree '\'' text text
  else if hasBreak then inThree '"' text (longBody 0 text)
  else inDouble text

end Writer

def writeText (text : String) : String :=
  String.ofList (Writer.textChars text.toList)

/-- A list of texts.  From two on every text has a line of its own. -/
def writeTexts : List String -> String
  | [] => "[]"
  | [text] => "[" ++ writeText text ++ "]"
  | texts => "[\n" ++ Text.join "" (texts.map fun text => "    " ++ writeText text ++ ",\n") ++ "]"

/-- A line that assigns a text. -/
def writeAssignment (key : String) (text : String) : String :=
  key ++ " = " ++ writeText text ++ "\n"

end Toml
end CorpusQuery
