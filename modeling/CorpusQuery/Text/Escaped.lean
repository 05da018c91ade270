import CorpusQuery.Unicode.Property

namespace CorpusQuery
namespace Text

/-!
# Escaped text

Outlines and error messages show text in quotes so that every character can be
seen.  The quote itself and the backslash get a backslash, the common control
characters their short form, and whatever would not show by itself the number
of its code in braces: separators other than the space, control, format,
private and unassigned characters, and marks that attach to the character
before them.
-/

namespace Escaped

/-- Whether a character shows when printed by itself. -/
def isVisible (c : Char) : Bool :=
  c = ' ' ||
    !(Unicode.Category.anyContains (Unicode.Category.separators ++ Unicode.Category.others)
        c.toNat || Unicode.Property.graphemeExtend c.toNat)

/-- A character by the hexadecimal number of its code. -/
def numbered (c : Char) : List Char :=
  ['\\', 'u', '{'] ++ Nat.toDigits 16 c.toNat ++ ['}']

/-- The form of one character inside a given kind of quotes. -/
def charIn (quote c : Char) : List Char :=
  if c = '\x00' then ['\\', '0']
  else if c = '\t' then ['\\', 't']
  else if c = '\r' then ['\\', 'r']
  else if c = '\n' then ['\\', 'n']
  else if c = '\\' ∨ c = quote then ['\\', c]
  else if isVisible c then [c]
  else numbered c

end Escaped

/-- A text between double quotes. -/
def escapedText (text : String) : String :=
  String.ofList ('"' :: text.toList.flatMap (Escaped.charIn '"') ++ ['"'])

/-- A character between single quotes. -/
def escapedChar (c : Char) : String :=
  String.ofList ('\'' :: Escaped.charIn '\'' c ++ ['\''])

end Text
end CorpusQuery
