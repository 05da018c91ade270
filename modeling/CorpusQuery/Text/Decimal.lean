namespace CorpusQuery
namespace Text

/-!
# Decimal numbers

Operands are written with the ten ASCII digits and an optional sign.  Nothing
else is a number: no blanks, no grouping, no empty digit run.  Reading refuses
values outside the range that the caller allows.
-/

def isDigit (c : Char) : Bool :=
  '0' ≤ c && c ≤ '9'

/-- The value of a non-empty run of digits. -/
def natural? (chars : List Char) : Option Nat :=
  if chars.isEmpty || !chars.all isDigit then none else some (Nat.ofDigitChars 10 chars 0)

/-- An integer with an optional sign. -/
def integer? : List Char -> Option Int
  | '+' :: rest => (natural? rest).map Int.ofNat
  | '-' :: rest => (natural? rest).map fun n => -Int.ofNat n
  | chars => (natural? chars).map Int.ofNat

/-- Whether an integer fits a signed word of 64 bits. -/
def fits64 (n : Int) : Bool :=
  -9223372036854775808 ≤ n && n < 9223372036854775808

/-- A signed integer of 64 bits. -/
def integer64? (chars : List Char) : Option Int :=
  (integer? chars).filter fits64

/-- A number from 0 to 255, with an optional plus sign. -/
def byte? (chars : List Char) : Option Nat :=
  (natural? (match chars with
    | '+' :: rest => rest
    | _ => chars)).filter (· < 256)

/-- The decimal text of an integer. -/
def integerText : Int -> String
  | .ofNat n => Nat.repr n
  | .negSucc n => "-" ++ Nat.repr (n + 1)

end Text
end CorpusQuery
