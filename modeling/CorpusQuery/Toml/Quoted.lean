import CorpusQuery.Text.Hexadecimal
import CorpusQuery.Text.Quoted

namespace CorpusQuery
namespace Toml

/-!
# Quoted text

Text is written in one of four ways.  Double quotes allow escapes, single
quotes do not; three quotes of either kind allow line breaks inside, and a line
break right behind the opening quotes is dropped.  Within three double quotes a
backslash at the end of a line removes everything up to the next visible
character.  Up to two quotes may stand directly before the closing three.
-/

open Text.Quoted (prepend)

namespace Quoted

/-- Characters that stand for themselves in text and comments. -/
def isTextChar (c : Char) : Bool :=
  c = '\t' || (0x20 ≤ c.toNat && c.toNat != 0x7F)

def isSpace (c : Char) : Bool :=
  c = ' ' || c = '\t'

/-- Whether a line break starts with the character. -/
def isBreakBefore (c : Char) (rest : List Char) : Bool :=
  c = '\n' || (c = '\r' && rest.head? = some '\n')

/-- Drop one line break. -/
def dropBreak : List Char -> List Char
  | '\n' :: rest => rest
  | '\r' :: '\n' :: rest => rest
  | chars => chars

/-- The character with the number written by exactly so many digits. -/
def numbered? (count : Nat) (rest : List Char) : Option Char :=
  (Text.leadingHex? count rest).bind Text.charOfCode?

/-- The character that an escape stands for, from behind its backslash, and the
number of characters that write it. -/
def escape? : List Char -> Option (Char × Nat)
  | [] => none
  | c :: rest =>
    if c = 'b' then some ('\x08', 1)
    else if c = 't' then some ('\t', 1)
    else if c = 'n' then some ('\n', 1)
    else if c = 'f' then some ('\x0c', 1)
    else if c = 'r' then some ('\r', 1)
    else if c = '"' ∨ c = '\\' then some (c, 1)
    else if c = 'u' then (numbered? 4 rest).map fun found => (found, 5)
    else if c = 'U' then (numbered? 8 rest).map fun found => (found, 9)
    else none

/-- Text in double quotes from behind the opening one, with what follows the
closing one. -/
def basic? : List Char -> Option (List Char × List Char) :=
  Text.Quoted.content? escape? isTextChar 0

/-- Text in single quotes from behind the opening one. -/
def literal? : List Char -> Option (List Char × List Char)
  | [] => none
  | c :: rest =>
    if c = '\'' then some ([], rest)
    else if isTextChar c then prepend c (literal? rest)
    else none

/-- The end of text in three quotes, from behind the first of at least three:
one or two more quotes belong to the text. -/
def closing (quote : Char) (behindThree : List Char) : List Char × List Char :=
  match behindThree with
  | first :: second :: rest =>
    if first = quote ∧ second = quote then ([quote, quote], rest)
    else if first = quote then ([quote], second :: rest)
    else ([], first :: second :: rest)
  | [only] => if only = quote then ([quote], []) else ([], [only])
  | [] => ([], [])

/-- Whether two more quotes follow. -/
def isClosed (quote : Char) (rest : List Char) : Bool :=
  rest.take 2 = [quote, quote]

/-- Where reading stands inside three double quotes. -/
inductive LongState where
  /-- In the text, with characters of an escape still to be passed. -/
  | content (passed : Nat)
  /-- Behind a backslash that must be the last visible character of its line. -/
  | lineEnd
  /-- Behind such a line. -/
  | margin
  deriving DecidableEq

/-- Text in three double quotes from behind the opening ones. -/
def longBasic? : LongState -> List Char -> Option (List Char × List Char)
  | _, [] => none
  | .content (passed + 1), _ :: rest => longBasic? (.content passed) rest
  | .lineEnd, c :: rest =>
    if isSpace c || (c = '\r' && rest.head? = some '\n') then longBasic? .lineEnd rest
    else if c = '\n' then longBasic? .margin rest
    else none
  | state, c :: rest =>
    if state = .margin && (isSpace c || isBreakBefore c rest) then longBasic? .margin rest
    else if c = '"' then
      if isClosed '"' rest then some (closing '"' (rest.drop 2))
      else prepend c (longBasic? (.content 0) rest)
    else if c = '\\' then
      match escape? rest with
      | some (found, length) => prepend found (longBasic? (.content length) rest)
      | none => longBasic? .lineEnd rest
    else if c = '\r' && rest.head? = some '\n' then longBasic? (.content 0) rest
    else if c = '\n' || isTextChar c then prepend c (longBasic? (.content 0) rest)
    else none

/-- Text in three single quotes from behind the opening ones. -/
def longLiteral? : List Char -> Option (List Char × List Char)
  | [] => none
  | c :: rest =>
    if c = '\'' && isClosed '\'' rest then some (closing '\'' (rest.drop 2))
    else if c = '\r' && rest.head? = some '\n' then longLiteral? rest
    else if c = '\n' || isTextChar c then prepend c (longLiteral? rest)
    else none

/-- Text in any kind of quotes, the first quote being the first character. -/
def text? : List Char -> Option (List Char × List Char)
  | '"' :: '"' :: '"' :: rest => longBasic? (.content 0) (dropBreak rest)
  | '\'' :: '\'' :: '\'' :: rest => longLiteral? (dropBreak rest)
  | '"' :: rest => basic? rest
  | '\'' :: rest => literal? rest
  | _ => none

end Quoted

end Toml
end CorpusQuery
