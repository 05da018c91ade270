namespace CorpusQuery
namespace Text

/-!
# Quoted literals

The query language of the store writes a literal between single quotes, and a
single quote inside it twice.  This is the only place where literal text is
quoted for the store.
-/

namespace Literal

/-- The characters of a literal with every single quote doubled. -/
def doubled : List Char -> List Char
  | [] => []
  | c :: rest => if c = '\'' then '\'' :: '\'' :: doubled rest else c :: doubled rest

def chars (text : List Char) : List Char :=
  '\'' :: (doubled text ++ ['\''])

end Literal

def quoteLiteral (text : String) : String :=
  String.ofList (Literal.chars text.toList)

end Text
end CorpusQuery
