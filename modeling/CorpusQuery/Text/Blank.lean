namespace CorpusQuery
namespace Text

/-!
# Blank and control characters

Blanks separate the tokens of a query and are removed from the ends of texts
and operands.  A blank is a character with the white-space property, which
includes the no-break spaces and the line and paragraph separators.  Control
characters are the two ranges of codes without a graphic meaning; some of them
are blanks too.
-/

def isBlank (c : Char) : Bool :=
  (9 ≤ c.toNat && c.toNat ≤ 13) || c.toNat == 0x20 || c.toNat == 0x85 || c.toNat == 0xA0 ||
    c.toNat == 0x1680 || (0x2000 ≤ c.toNat && c.toNat ≤ 0x200A) || c.toNat == 0x2028 ||
    c.toNat == 0x2029 || c.toNat == 0x202F || c.toNat == 0x205F || c.toNat == 0x3000

def isControl (c : Char) : Bool :=
  c.toNat < 0x20 || (0x7F ≤ c.toNat && c.toNat < 0xA0)

/-- Remove the blanks at the end. -/
def dropBlankEnd (chars : List Char) : List Char :=
  (chars.reverse.dropWhile isBlank).reverse

/-- Remove the blanks at both ends. -/
def trimChars (chars : List Char) : List Char :=
  dropBlankEnd (chars.dropWhile isBlank)

def trim (text : String) : String :=
  String.ofList (trimChars text.toList)

end Text
end CorpusQuery
