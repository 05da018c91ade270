import CorpusQuery.Pattern.Tree
import CorpusQuery.Text.Ascii
import CorpusQuery.Unicode.Age
import CorpusQuery.Unicode.Boundary
import CorpusQuery.Unicode.Script

namespace CorpusQuery
namespace Pattern

/-!
# Classes asked for by name

Names are compared loosely: case, blanks, underscores, hyphens and a leading
`is` are ignored, and characters outside ASCII are dropped.  A lone name is a
binary property, a general category or a script, tried in this order, except
that three short names which also abbreviate properties without a yes-or-no
answer always mean the category.
-/

open Unicode

/-- The form of a name in which names are compared. -/
def looseName (name : String) : String :=
  let isIgnored (c : Char) : Bool := c = ' ' || c = '_' || c = '-' || 0x7F < c.toNat
  let simplify (chars : List Char) : String :=
    String.ofList ((chars.filter fun c => !isIgnored c).map Text.lowerAscii)
  match name.toList with
  | first :: second :: rest =>
    if Text.lowerAscii first = 'i' ∧ Text.lowerAscii second = 's' then
      let simple := simplify rest
      if simple = "c" then "isc" else simple
    else simplify (first :: second :: rest)
  | short => simplify short

/-- Short names of categories that take precedence over properties. -/
def categoryAbbreviations : List String := ["cf", "sc", "lc"]

/-- The class of a lone name. -/
def namedSet? (name : String) : Option CodeSet :=
  let name := looseName name
  let property := if categoryAbbreviations.contains name then none else Property.named? name
  property.orElse fun _ =>
    (Category.named? name).orElse fun _ => (Script.named? name).map Script.codeSet

/-- The class of a property with a value. -/
def valuedSet? (property value : String) : Option CodeSet :=
  let value := looseName value
  match looseName property with
  | "gc" | "generalcategory" => Category.named? value
  | "sc" | "script" => (Script.named? value).map Script.codeSet
  | "scx" | "scriptextensions" => (Script.named? value).map Script.extendedSet
  | "age" => Age.named? value
  | "gcb" | "graphemeclusterbreak" => Boundary.Cluster.named? value
  | "wb" | "wordbreak" => Boundary.WordPart.named? value
  | "sb" | "sentencebreak" => Boundary.Sentence.named? value
  | _ => none

def PropertyQuery.set? : PropertyQuery -> Option CodeSet
  | .named name => namedSet? name
  | .valued property value => valuedSet? property value

/-- Letters, marks, digits, connecting punctuation and join controls. -/
def isWordCode (code : Nat) : Bool :=
  Property.alphabetic code || Category.anyContains Category.marks code ||
    Category.anyContains [.decimalNumber, .connectorPunctuation] code ||
    Property.joinControl.contains code

/-- The same within ASCII. -/
def isAsciiWordCode (code : Nat) : Bool :=
  (0x30 ≤ code && code ≤ 0x39) || (0x41 ≤ code && code ≤ 0x5A) || code == 0x5F ||
    (0x61 ≤ code && code ≤ 0x7A)

namespace Shorthand

def unicodeSet : Shorthand -> CodeSet
  | .digit => .ofTable Category.decimalNumberTable
  | .space => .ofTable Property.whiteSpace
  | .word => ⟨isWordCode, 770⟩

def asciiSet : Shorthand -> CodeSet
  | .digit => .range 0x30 0x39
  | .space => .ofRanges [(0x9, 0xD), (0x20, 0x20)]
  | .word => ⟨isAsciiWordCode, 4⟩

end Shorthand

/-- The bracketed ASCII classes such as `[:alpha:]`. -/
def asciiClass? : String -> Option (List (Nat × Nat))
  | "alnum" => some [(0x30, 0x39), (0x41, 0x5A), (0x61, 0x7A)]
  | "alpha" => some [(0x41, 0x5A), (0x61, 0x7A)]
  | "ascii" => some [(0x0, 0x7F)]
  | "blank" => some [(0x9, 0x9), (0x20, 0x20)]
  | "cntrl" => some [(0x0, 0x1F), (0x7F, 0x7F)]
  | "digit" => some [(0x30, 0x39)]
  | "graph" => some [(0x21, 0x7E)]
  | "lower" => some [(0x61, 0x7A)]
  | "print" => some [(0x20, 0x7E)]
  | "punct" => some [(0x21, 0x2F), (0x3A, 0x40), (0x5B, 0x60), (0x7B, 0x7E)]
  | "space" => some [(0x9, 0xD), (0x20, 0x20)]
  | "upper" => some [(0x41, 0x5A)]
  | "word" => some [(0x30, 0x39), (0x41, 0x5A), (0x5F, 0x5F), (0x61, 0x7A)]
  | "xdigit" => some [(0x30, 0x39), (0x41, 0x46), (0x61, 0x66)]
  | _ => none

end Pattern
end CorpusQuery
