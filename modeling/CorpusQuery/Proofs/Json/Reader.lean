import CorpusQuery.Json.Value
import CorpusQuery.Text.Decimal
import CorpusQuery.Text.Quoted

namespace CorpusQuery
namespace Json

/-!
# Reading JSON

A reader for all of JSON, and not only for what is written here: every kind of
value, numbers with fraction and exponent, all escapes with pairs of surrogates,
and blanks wherever they are allowed.  A text that is no JSON is refused.

A number is kept exactly, as an integer times a power of ten.  The fields of a
record stay in the order in which they are written, repeated names included.
-/

/-- What a JSON text stands for. -/
inductive Document where
  | null
  | boolean (value : Bool)
  /-- An integer times a power of ten. -/
  | number (mantissa exponent : Int)
  | text (content : String)
  | list (items : List Document)
  | record (fields : List (String × Document))

namespace Reader

def isSpace (c : Char) : Bool :=
  c = ' ' || c = '\t' || c = '\n' || c = '\r'

def dropSpaces (chars : List Char) : List Char :=
  chars.dropWhile isSpace

/-! ## Texts -/

/-- The character behind `\u`, and the number of characters that write it with the
letter counted.  Characters beyond the first plane are written as two surrogates. -/
def numbered? (chars : List Char) : Option (Char × Nat) := do
  let first ← Text.leadingHex? 4 chars
  if first < 0xD800 ∨ 0xDFFF < first then return (Char.ofNat first, 5)
  else if first < 0xDC00 ∧ (chars.drop 4).take 2 = ['\\', 'u'] then
    let second ← Text.leadingHex? 4 (chars.drop 6)
    if 0xDC00 ≤ second ∧ second ≤ 0xDFFF then
      return (Char.ofNat (0x10000 + (first - 0xD800) * 0x400 + (second - 0xDC00)), 11)
    else none
  else none

/-- The character that an escape stands for, from behind its backslash, and the
number of characters that write it. -/
def escape? : List Char -> Option (Char × Nat)
  | [] => none
  | c :: rest =>
    if c = '"' ∨ c = '\\' ∨ c = '/' then some (c, 1)
    else if c = 'b' then some ('\x08', 1)
    else if c = 'f' then some ('\x0c', 1)
    else if c = 'n' then some ('\n', 1)
    else if c = 'r' then some ('\r', 1)
    else if c = 't' then some ('\t', 1)
    else if c = 'u' then numbered? rest
    else none

/-- A text from behind its opening quote, with what follows the closing one. -/
def content? : List Char -> Option (List Char × List Char) :=
  Text.Quoted.content? escape? (fun c => 0x20 ≤ c.toNat) 0

/-! ## Numbers -/

/-- At least one digit, with what follows the last one. -/
def digits? (chars : List Char) : Option (List Char × List Char) :=
  if (chars.takeWhile Text.isDigit).isEmpty then none
  else some (chars.takeWhile Text.isDigit, chars.dropWhile Text.isDigit)

/-- The digits before the point, without a zero in front of others. -/
def whole? (chars : List Char) : Option (List Char × List Char) := do
  let (digits, rest) ← digits? chars
  if digits.head? = some '0' ∧ digits ≠ ['0'] then none else return (digits, rest)

/-- The digits behind a point, if there is one. -/
def fraction? : List Char -> Option (List Char × List Char)
  | [] => some ([], [])
  | c :: rest => if c = '.' then digits? rest else some ([], c :: rest)

/-- Digits with an optional sign. -/
def power? : List Char -> Option (Int × List Char)
  | [] => none
  | c :: rest => do
    let (digits, rest) ← digits? (if c = '+' ∨ c = '-' then rest else c :: rest)
    let size := Int.ofNat (Nat.ofDigitChars 10 digits 0)
    return (if c = '-' then -size else size, rest)

/-- The power of ten, if there is one. -/
def exponent? : List Char -> Option (Int × List Char)
  | [] => some (0, [])
  | c :: rest => if c = 'e' ∨ c = 'E' then power? rest else some (0, c :: rest)

def unsigned? (chars : List Char) : Option ((Nat × Int) × List Char) := do
  let (whole, rest) ← whole? chars
  let (fraction, rest) ← fraction? rest
  let (exponent, rest) ← exponent? rest
  return ((Nat.ofDigitChars 10 (whole ++ fraction) 0, exponent - Int.ofNat fraction.length), rest)

def number? : List Char -> Option (Document × List Char)
  | [] => none
  | c :: rest =>
    if c = '-' then
      (unsigned? rest).map fun ((mantissa, exponent), rest) => (.number (-mantissa) exponent, rest)
    else
      (unsigned? (c :: rest)).map fun ((mantissa, exponent), rest) =>
        (.number mantissa exponent, rest)

/-! ## Values -/

/-- A value that is neither text nor list nor record. -/
def plain? (chars : List Char) : Option (Document × List Char) :=
  if ['n', 'u', 'l', 'l'].isPrefixOf chars then some (.null, chars.drop 4)
  else if ['t', 'r', 'u', 'e'].isPrefixOf chars then some (.boolean true, chars.drop 4)
  else if ['f', 'a', 'l', 's', 'e'].isPrefixOf chars then some (.boolean false, chars.drop 5)
  else number? chars

mutual

/-- A value at the start of a text.  The bound is on how deep values and members
stand behind and inside each other. -/
def value? : Nat -> List Char -> Option (Document × List Char)
  | 0, _ => none
  | bound + 1, chars =>
    match chars with
    | [] => none
    | c :: rest =>
      if c = '"' then
        (content? rest).map fun (content, rest) => (.text (String.ofList content), rest)
      else if c = '[' then
        match dropSpaces rest with
        | ']' :: rest => some (.list [], rest)
        | rest => (items? bound rest).map fun (items, rest) => (.list items, rest)
      else if c = '\x7b' then
        match dropSpaces rest with
        | '\x7d' :: rest => some (.record [], rest)
        | rest => (fields? bound rest).map fun (fields, rest) => (.record fields, rest)
      else plain? chars

/-- The items of a list, of which there is at least one, up to the bracket. -/
def items? : Nat -> List Char -> Option (List Document × List Char)
  | 0, _ => none
  | bound + 1, chars => do
    let (item, rest) ← value? bound (dropSpaces chars)
    match dropSpaces rest with
    | ',' :: rest => (items? bound rest).map fun (items, rest) => (item :: items, rest)
    | ']' :: rest => some ([item], rest)
    | _ => none

/-- The fields of a record, of which there is at least one, up to the brace. -/
def fields? : Nat -> List Char -> Option (List (String × Document) × List Char)
  | 0, _ => none
  | bound + 1, chars =>
    match dropSpaces chars with
    | '"' :: rest => do
      let (name, rest) ← content? rest
      match dropSpaces rest with
      | ':' :: rest =>
        let (value, rest) ← value? bound (dropSpaces rest)
        match dropSpaces rest with
        | ',' :: rest =>
          (fields? bound rest).map fun (fields, rest) =>
            ((String.ofList name, value) :: fields, rest)
        | '\x7d' :: rest => some ([(String.ofList name, value)], rest)
        | _ => none
      | _ => none
    | _ => none

end

end Reader

/-- Read a text, none when it is no JSON.  Every value and every member takes a
character of its own, so the length is bound enough. -/
def read? (text : String) : Option Document := do
  let (document, rest) ← Reader.value? text.length (Reader.dropSpaces text.toList)
  if rest.all Reader.isSpace then return document else none

example : read? " \x7b \"a\\/\\uD83d\\uDe00\" : [ -1.50e+2 ,true, null,\x7b\x7d ],\"a\":0\x7d\n" =
    some (.record [("a/😀", .list [.number (-150) 0, .boolean true, .null, .record []]),
      ("a", .number 0 0)]) := by
  cbv

end Json
end CorpusQuery
