import CorpusQuery.Query
import CorpusQuery.Text.Escaped
import CorpusQuery.Text.Join

namespace CorpusQuery

/-!
# Outlines

An outline shows the structure of a query as an indented list with one line
for each phrase, word position, term set and term.
-/

namespace Term

def outlineLine (term : Term) : String :=
  "      " ++ (if term.negated then "not " else "") ++ term.attr.mnemonic ++ " " ++
    Text.escapedText term.text ++ (if term.isPattern then " (regex)" else "") ++ "\n"

end Term

namespace Outline

/-- Lines for the members of a list, each under a heading with its number. -/
def numbered {α : Type} (heading : String) (body : α -> String) : Nat -> List α -> String
  | _, [] => ""
  | index, member :: rest =>
    heading ++ Nat.repr index ++ "\n" ++ body member ++ numbered heading body (index + 1) rest

def termLines : List Term -> String
  | [] => ""
  | term :: rest => term.outlineLine ++ termLines rest

end Outline

def TermSet.outline (set : TermSet) : String :=
  Outline.termLines set.terms

def WordPosition.outline (word : WordPosition) : String :=
  Outline.numbered "    set " TermSet.outline 0 word.sets

def Phrase.outline (phrase : Phrase) : String :=
  Outline.numbered "  word " WordPosition.outline 0 phrase.words

def Query.outline (query : Query) : String :=
  Outline.numbered "phrase " Phrase.outline 0 query.phrases

end CorpusQuery
