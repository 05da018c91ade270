import CorpusQuery.Text.Hexadecimal
import CorpusQuery.Text.Join

namespace CorpusQuery
namespace Json

/-!
# JSON text

Fragments are handed on as JSON.  Only the kinds of values that they need
exist: natural numbers, texts, lists and records.  There are two layouts.  The
compact one has no blanks; the indented one puts every member on a line of its
own, two spaces deeper than what holds it, and writes empty lists without a
line break.
-/

inductive Value where
  | natural (n : Nat)
  | text (content : String)
  | list (items : List Value)
  | record (fields : List (String × Value))

/-- A character by the number of its code in four hexadecimal digits. -/
def numbered (c : Char) : List Char :=
  '\\' :: 'u' :: Text.hexDigits 4 c.toNat

/-- The form of one character inside quotes. -/
def escapedChar (c : Char) : List Char :=
  if c = '"' ∨ c = '\\' then ['\\', c]
  else if c = '\x08' then ['\\', 'b']
  else if c = '\x0c' then ['\\', 'f']
  else if c = '\n' then ['\\', 'n']
  else if c = '\r' then ['\\', 'r']
  else if c = '\t' then ['\\', 't']
  else if c.toNat < 0x20 then numbered c
  else [c]

/-- A text between double quotes. -/
def quoted (content : String) : String :=
  String.ofList ('"' :: content.toList.flatMap escapedChar ++ ['"'])

namespace Value

mutual

def compact : Value -> String
  | .natural n => Nat.repr n
  | .text content => quoted content
  | .list items => "[" ++ compactItems items ++ "]"
  | .record fields => "\x7b" ++ compactFields fields ++ "\x7d"

def compactItems : List Value -> String
  | [] => ""
  | [item] => item.compact
  | item :: next :: rest => item.compact ++ "," ++ compactItems (next :: rest)

def compactFields : List (String × Value) -> String
  | [] => ""
  | [(name, value)] => quoted name ++ ":" ++ value.compact
  | (name, value) :: next :: rest =>
    quoted name ++ ":" ++ value.compact ++ "," ++ compactFields (next :: rest)

end

/-- A line break with the indentation of a level. -/
def lineBreak (level : Nat) : String :=
  "\n" ++ Text.repeated "  " level

mutual

/-- The indented layout of a value that starts at a level. -/
def indented (level : Nat) : Value -> String
  | .natural n => Nat.repr n
  | .text content => quoted content
  | .list [] => "[]"
  | .list (item :: rest) =>
    "[" ++ indentedItems (level + 1) (item :: rest) ++ lineBreak level ++ "]"
  | .record [] => "\x7b\x7d"
  | .record (field :: rest) =>
    "\x7b" ++ indentedFields (level + 1) (field :: rest) ++ lineBreak level ++ "\x7d"

def indentedItems (level : Nat) : List Value -> String
  | [] => ""
  | [item] => lineBreak level ++ item.indented level
  | item :: next :: rest =>
    lineBreak level ++ item.indented level ++ "," ++ indentedItems level (next :: rest)

def indentedFields (level : Nat) : List (String × Value) -> String
  | [] => ""
  | [(name, value)] => lineBreak level ++ quoted name ++ ": " ++ value.indented level
  | (name, value) :: next :: rest =>
    lineBreak level ++ quoted name ++ ": " ++ value.indented level ++ "," ++
      indentedFields level (next :: rest)

end

end Value

end Json
end CorpusQuery
