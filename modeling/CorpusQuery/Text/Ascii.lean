namespace CorpusQuery
namespace Text

/-!
# ASCII letters

Mnemonics and category letters are ASCII, and comparing them ignores the case
of the ASCII letters only.
-/

/-- Lower case of the ASCII letters; every other character is kept. -/
def lowerAscii (c : Char) : Char :=
  if 'A' ≤ c ∧ c ≤ 'Z' then Char.ofNat (c.toNat + 32) else c

/-- Replace every occurrence of one character by another. -/
def replaceChar (old new : Char) (text : String) : String :=
  String.ofList (text.toList.map fun c => if c = old then new else c)

end Text
end CorpusQuery
