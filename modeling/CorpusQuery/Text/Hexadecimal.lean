namespace CorpusQuery
namespace Text

/-!
# Hexadecimal numbers

Patterns, settings and outlines can all give a character by the number of its
code.  The digits are written to the base sixteen and read in either case.
-/

def hexValue? (c : Char) : Option Nat :=
  if '0' ≤ c ∧ c ≤ '9' then some (c.toNat - '0'.toNat)
  else if 'a' ≤ c ∧ c ≤ 'f' then some (c.toNat - 'a'.toNat + 10)
  else if 'A' ≤ c ∧ c ≤ 'F' then some (c.toNat - 'A'.toNat + 10)
  else none

/-- The value of a run of hexadecimal digits. -/
def hexNumber? (digits : List Char) : Option Nat :=
  digits.foldlM (fun value c => (hexValue? c).map (value * 16 + ·)) 0

/-- The number that exactly so many characters in front write. -/
def leadingHex? (count : Nat) (chars : List Char) : Option Nat :=
  if (chars.take count).length = count then hexNumber? (chars.take count) else none

/-- The digits of a number, with zeros in front up to a count. -/
def hexDigits (count number : Nat) : List Char :=
  let digits := Nat.toDigits 16 number
  List.replicate (count - digits.length) '0' ++ digits

/-- The character with a given number.  Surrogates are no characters. -/
def charOfCode? (code : Nat) : Option Char :=
  if code < 0xD800 ∨ (0xDFFF < code ∧ code ≤ 0x10FFFF) then some (Char.ofNat code) else none

end Text
end CorpusQuery
