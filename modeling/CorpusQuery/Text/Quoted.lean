namespace CorpusQuery
namespace Text
namespace Quoted

/-!
# Text between double quotes

The formats that put text between double quotes differ in the escapes that they
know and in the characters that may stand by themselves.  An escape is read from
behind its backslash, together with the number of characters that write it.
-/

/-- Put a character before the text read behind it. -/
def prepend (c : Char) : Option (List Char × List Char) -> Option (List Char × List Char)
  | none => none
  | some (text, rest) => some (c :: text, rest)

/-- Text from behind the opening quote, with what follows the closing one.  The
number counts characters of an escape still to be passed. -/
def content? (escape? : List Char -> Option (Char × Nat)) (isPlain : Char -> Bool) :
    Nat -> List Char -> Option (List Char × List Char)
  | _, [] => none
  | passed + 1, _ :: rest => content? escape? isPlain passed rest
  | 0, c :: rest =>
    if c = '"' then some ([], rest)
    else if c = '\\' then
      match escape? rest with
      | none => none
      | some (found, length) => prepend found (content? escape? isPlain length rest)
    else if isPlain c then prepend c (content? escape? isPlain 0 rest)
    else none

end Quoted
end Text
end CorpusQuery
