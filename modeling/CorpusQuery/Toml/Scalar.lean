import CorpusQuery.Text.Decimal
import CorpusQuery.Toml.Document

namespace CorpusQuery
namespace Toml

/-!
# Numbers, dates and truth values

A value that is neither text nor a list nor a table is written as one run of
characters.  A date may be followed by a blank and a time, which belong to the
same value.
-/

namespace Scalar

open Text (isDigit)

/-- Characters that can stand in such a value. -/
def isScalarChar (c : Char) : Bool :=
  c.isAlphanum || c = '+' || c = '-' || c = '_' || c = '.' || c = ':'

/-- Whether digits, with single underscores only between digits, make up a
text. -/
def isDigitRun (isDigit : Char -> Bool) : List Char -> Bool
  | [] => false
  | [c] => isDigit c
  | c :: '_' :: rest => isDigit c && isDigitRun isDigit rest
  | c :: rest => isDigit c && isDigitRun isDigit rest

/-- The text without underscores. -/
def plain (chars : List Char) : List Char :=
  chars.filter (· != '_')

/-- A sign and the rest. -/
def unsigned : List Char -> Bool × List Char
  | '+' :: rest => (false, rest)
  | '-' :: rest => (true, rest)
  | chars => (false, chars)

/-- The digits of a decimal integer, which do not start with a zero unless it
is the only one. -/
def isDecimal (digits : List Char) : Bool :=
  isDigitRun isDigit digits && (digits.length == 1 || digits.head? != some '0')

def isHexDigit (c : Char) : Bool :=
  isDigit c || ('a' ≤ c && c ≤ 'f') || ('A' ≤ c && c ≤ 'F')

/-- The value of a digit in any base up to sixteen. -/
def digitValue (c : Char) : Nat :=
  if isDigit c then c.toNat - '0'.toNat
  else if 'a' ≤ c ∧ c ≤ 'f' then c.toNat - 'a'.toNat + 10
  else c.toNat - 'A'.toNat + 10

def inBase (base : Nat) (digits : List Char) : Nat :=
  (plain digits).foldl (fun value c => value * base + digitValue c) 0

/-- Digits after the mark of a base. -/
def based? (base : Nat) (isDigit : Char -> Bool) (digits : List Char) : Option Int :=
  if isDigitRun isDigit digits && Text.fits64 (inBase base digits) then
    some (inBase base digits)
  else none

def integer? (chars : List Char) : Option Int :=
  match chars with
  | '0' :: 'x' :: digits => based? 16 isHexDigit digits
  | '0' :: 'o' :: digits => based? 8 (fun c => '0' ≤ c && c ≤ '7') digits
  | '0' :: 'b' :: digits => based? 2 (fun c => c = '0' || c = '1') digits
  | _ =>
    let (negative, digits) := unsigned chars
    if isDecimal digits then
      let magnitude : Int := inBase 10 digits
      let value := if negative then -magnitude else magnitude
      if Text.fits64 value then some value else none
    else none

/-- Numbers from this one on are too large for a floating-point number. -/
def floatBound : Nat := Nat.pow 2 1024 - Nat.pow 2 970

/-- Whether `digits * 10 ^ exponent` stays below the bound.  Far from the bound
the count of digits decides. -/
def isFinite (digits : Nat) (exponent : Int) : Bool :=
  let magnitude : Int := (Nat.repr digits).length + exponent
  if digits = 0 || magnitude < 300 then true
  else if 320 < magnitude then false
  else if 0 ≤ exponent then digits * Nat.pow 10 exponent.toNat < floatBound
  else digits < floatBound * Nat.pow 10 (-exponent).toNat

/-- The exponent written behind the mark, zero without one. -/
def exponent? : List Char -> Option Int
  | [] => some 0
  | mark :: rest =>
    let (negative, digits) := unsigned rest
    if (mark = 'e' || mark = 'E') && isDigitRun isDigit digits then
      let value : Int := inBase 10 digits
      some (if negative then -value else value)
    else none

def isExponentMark (c : Char) : Bool :=
  c = 'e' || c = 'E'

/-- A number with a fraction or an exponent.  Positive numbers must be finite. -/
def isFloat (chars : List Char) : Bool :=
  let (negative, body) := unsigned chars
  if body = "inf".toList || body = "nan".toList then true
  else
    let mantissa := body.takeWhile fun c => !isExponentMark c
    let scale := body.dropWhile fun c => !isExponentMark c
    let whole := mantissa.takeWhile (· != '.')
    let fraction := mantissa.dropWhile (· != '.')
    let fractionValid := match fraction with
      | [] => !scale.isEmpty
      | _ :: digits => isDigitRun isDigit digits
    match exponent? scale with
    | none => false
    | some exponent =>
      let decimals := plain (fraction.drop 1)
      isDecimal whole && fractionValid &&
        (negative ||
          isFinite (inBase 10 (whole ++ decimals)) (exponent - (decimals.length : Int)))

/-! ## Dates and times -/

/-- Two digits as a number. -/
def twoDigits? : List Char -> Option (Nat × List Char)
  | a :: b :: rest =>
    if isDigit a && isDigit b then some (digitValue a * 10 + digitValue b, rest) else none
  | _ => none

def isLeapYear (year : Nat) : Bool :=
  year % 4 == 0 && (year % 100 != 0 || year % 400 == 0)

def daysIn (year month : Nat) : Nat :=
  if month = 2 then (if isLeapYear year then 29 else 28)
  else if month = 4 ∨ month = 6 ∨ month = 9 ∨ month = 11 then 30
  else 31

def passChar? (c : Char) : List Char -> Option (List Char)
  | [] => none
  | first :: rest => if first = c then some rest else none

/-- A date and what follows it. -/
def date? (chars : List Char) : Option (List Char) := do
  let (century, rest) ← twoDigits? chars
  let (year, rest) ← twoDigits? rest
  let (month, rest) ← twoDigits? (← passChar? '-' rest)
  let (day, rest) ← twoDigits? (← passChar? '-' rest)
  let year := century * 100 + year
  if 1 ≤ month ∧ month ≤ 12 ∧ 1 ≤ day ∧ day ≤ daysIn year month then some rest else none

/-- The fraction of a second may be missing. -/
def secondFraction? : List Char -> Option (List Char)
  | '.' :: rest => if (rest.takeWhile isDigit).isEmpty then none else some (rest.dropWhile isDigit)
  | chars => some chars

/-- A time of day and what follows it. -/
def time? (chars : List Char) : Option (List Char) := do
  let (hour, rest) ← twoDigits? chars
  let (minute, rest) ← twoDigits? (← passChar? ':' rest)
  let (second, rest) ← twoDigits? (← passChar? ':' rest)
  if hour ≤ 23 ∧ minute ≤ 59 ∧ second ≤ 60 then secondFraction? rest else none

/-- The offset from universal time, which may be missing. -/
def isOffset : List Char -> Bool
  | [] | ['Z'] | ['z'] => true
  | sign :: rest =>
    (sign = '+' || sign = '-') &&
      match (do
        let (hour, rest) ← twoDigits? rest
        let (minute, rest) ← twoDigits? (← passChar? ':' rest)
        if hour ≤ 23 ∧ minute ≤ 59 then some rest else none) with
      | some [] => true
      | _ => false

/-- A date, a time, or both with an offset. -/
def isMoment (chars : List Char) : Bool :=
  match date? chars with
  | some [] => true
  | some (mark :: rest) =>
    (mark = 'T' || mark = 't' || mark = ' ') && ((time? rest).map isOffset).getD false
  | none => time? chars = some []

/-- The value written by a run of characters. -/
def node? (chars : List Char) : Option Node :=
  if chars = "true".toList then some (.boolean true)
  else if chars = "false".toList then some (.boolean false)
  else if isMoment chars then some .moment
  else if isFloat chars then some .float
  else (integer? chars).map .integer

/-- The run of characters at the start of a text.  A date takes a time behind
one blank with it. -/
def run (chars : List Char) : List Char × List Char :=
  let token := chars.takeWhile isScalarChar
  let rest := chars.dropWhile isScalarChar
  match date? token, rest with
  | some [], ' ' :: c :: after =>
    if isDigit c then
      (token ++ ' ' :: (c :: after).takeWhile isScalarChar, (c :: after).dropWhile isScalarChar)
    else (token, rest)
  | _, _ => (token, rest)

/-- Read such a value. -/
def read? (chars : List Char) : Option (Node × List Char) :=
  let (token, rest) := run chars
  (node? token).map fun node => (node, rest)

end Scalar

end Toml
end CorpusQuery
