namespace CorpusQuery
namespace Text

/-!
# Joining texts

Lists of parts are written with a separator between neighbours and nothing at
the ends.
-/

def join (separator : String) : List String -> String
  | [] => ""
  | [part] => part
  | part :: next :: rest => part ++ separator ++ join separator (next :: rest)

/-- The same over characters, with a single character as separator. -/
def joinChars (separator : Char) : List (List Char) -> List Char
  | [] => []
  | [part] => part
  | part :: next :: rest => part ++ separator :: joinChars separator (next :: rest)

/-- One text written a number of times. -/
def repeated (text : String) : Nat -> String
  | 0 => ""
  | count + 1 => text ++ repeated text count

/-- Pad on the right with spaces up to a width. -/
def padRight (width : Nat) (text : String) : String :=
  text ++ String.ofList (List.replicate (width - text.length) ' ')

end Text
end CorpusQuery
