import CorpusQuery.Text.Ascii

namespace CorpusQuery

/-!
# Attributes

A term tests one of a fixed list of attributes, named in a query by a short
mnemonic.  For every attribute there is one entry: where its value lives in the
store, how the text of a term is understood, and a description for readers.

Four attributes take a single letter that the store keeps as a small number.
Several letters may stand for one number; the first of them is the one that is
written back.
-/

/-- What a term can test. -/
inductive Attribute where
  | spelling
  | headword
  | partOfSpeech
  | wordClass
  | majorWordClass
  | speaker
  | speakerGender
  | semanticTag
  | isVerse
  | metricalShape
  | speakerMortality
  | wordPartCount
  | authorName
  | authorContemporary
  | corpusTag
  | corpusTitle
  | workTitleFull
  | workTitleShort
  | workTag
  | workPartTitleFull
  | workPartTitleShort
  | workPartTag
  | publicationYearEarly
  | publicationYearLate
  | narrative
  deriving DecidableEq, Repr

/-- What an attribute's value belongs to. -/
inductive Entity where
  | word
  /-- A part of a word, reached by a join for each word position. -/
  | wordPart
  | work
  | workPart
  deriving DecidableEq, Repr

/-- Whether a position that tests this entity needs a join of its own. -/
def Entity.needsJoin : Entity -> Bool
  | .wordPart => true
  | .word | .work | .workPart => false

/-- The letters that stand for one code. -/
structure LetterCode where
  canonical : Char
  others : List Char := []
  code : Nat
  deriving DecidableEq, Repr

namespace LetterCode

def letters (entry : LetterCode) : List Char :=
  entry.canonical :: entry.others

/-- Whether a letter stands for the code, in either case. -/
def accepts (entry : LetterCode) (c : Char) : Bool :=
  entry.letters.contains (Text.lowerAscii c)

/-- The digit that writes the code. -/
def digit (entry : LetterCode) : Char :=
  Char.ofNat ('0'.toNat + entry.code)

end LetterCode

/-- How the text of a term is understood. -/
inductive ValueDomain where
  /-- Free text, compared or matched. -/
  | text
  /-- Codes from a closed set that the store supplies. -/
  | externalCodes
  /-- An integer with a relation. -/
  | numeric
  /-- Letters that stand for codes. -/
  | categorical (table : List LetterCode)
  /-- Letters that ask whether the field is set: code 1 when it is not. -/
  | presence (table : List LetterCode)
  deriving DecidableEq, Repr

/-- The letters of a domain, if it has any. -/
def ValueDomain.table? : ValueDomain -> Option (List LetterCode)
  | .categorical table | .presence table => some table
  | .text | .externalCodes | .numeric => none

structure AttributeEntry where
  mnemonic : String
  entity : Entity
  /-- The field, with placeholders for the word position. -/
  template : String
  domain : ValueDomain
  description : String

namespace Attribute

def genderTable : List LetterCode :=
  [{ canonical := 'm', code := 0 }, { canonical := 'f', code := 1 },
    { canonical := 'u', code := 2 }]

def mortalityTable : List LetterCode :=
  [{ canonical := 'm', code := 0 }, { canonical := 'i', others := ['s'], code := 1 },
    { canonical := 'u', code := 2 }]

def verseTable : List LetterCode :=
  [{ canonical := 'n', code := 0 }, { canonical := 'y', code := 1 },
    { canonical := 'u', code := 2 }]

def narrativeTable : List LetterCode :=
  [{ canonical := 'n', code := 0 }, { canonical := 'y', code := 1 }]

def entry : Attribute -> AttributeEntry
  | .spelling =>
    ⟨"spe", .word, "%w.spellingInsensitive.string", .text, "spelling"⟩
  | .headword =>
    ⟨"lem", .wordPart, "wp%i.lemPos.lemma.tagInsensitive.string", .text, "lemma"⟩
  | .partOfSpeech =>
    ⟨"pos", .wordPart, "wp%i.lemPos.pos.tag", .externalCodes, "part of speech"⟩
  | .wordClass =>
    ⟨"wc", .wordPart, "wp%i.lemPos.lemma.wordClass.tag", .text, "word class"⟩
  | .majorWordClass =>
    ⟨"mwc", .wordPart, "wp%i.lemPos.pos.majorWordClass", .text, "major word class"⟩
  | .speaker =>
    ⟨"spk", .word, "%w.speech.speakerName", .text, "speaker name"⟩
  | .speakerGender =>
    ⟨"spg", .word, "%w.speech.gender.gender", .categorical genderTable,
      "speaker gender (m, f, u)"⟩
  | .semanticTag =>
    ⟨"sem", .word, "%w.semanticTags", .text, "semantic tag"⟩
  | .isVerse =>
    ⟨"vrs", .word, "%w.prosodic.prosodic", .categorical verseTable, "verse (y, n, u)"⟩
  | .metricalShape =>
    ⟨"met", .word, "%w.metricalShape", .text, "metrical shape"⟩
  | .speakerMortality =>
    ⟨"mor", .word, "%w.speech.mortality.mortality", .categorical mortalityTable,
      "speaker mortality (m, i or s, u)"⟩
  | .wordPartCount =>
    ⟨"wpc", .word, "%w.numWordParts", .numeric, "number of word parts"⟩
  | .authorName =>
    ⟨"aut", .work, "%pwork.author.name", .text, "author name"⟩
  | .authorContemporary =>
    ⟨"acn", .work, "%pwork.author.contemporary", .text, "author contemporary"⟩
  | .corpusTag =>
    ⟨"cor", .work, "%pwork.corpus.tag", .text, "corpus tag"⟩
  | .corpusTitle =>
    ⟨"ctl", .work, "%pwork.corpus.title", .text, "corpus title"⟩
  | .workTitleFull =>
    ⟨"wtf", .work, "%pwork.fullTitle", .text, "work full title"⟩
  | .workTitleShort =>
    ⟨"wts", .work, "%pwork.shortTitle", .text, "work short title"⟩
  | .workTag =>
    ⟨"wtg", .work, "%pwork.tag", .text, "work tag"⟩
  | .workPartTitleFull =>
    ⟨"ptf", .workPart, "%pworkPart.fullTitle", .text, "work part full title"⟩
  | .workPartTitleShort =>
    ⟨"pts", .workPart, "%pworkPart.shortTitle", .text, "work part short title"⟩
  | .workPartTag =>
    ⟨"ptg", .workPart, "%pworkPart.tag", .text, "work part tag"⟩
  | .publicationYearEarly =>
    ⟨"pye", .work, "%pwork.pubDate.startYear", .numeric, "earliest publication year"⟩
  | .publicationYearLate =>
    ⟨"pyl", .work, "%pwork.pubDate.endYear", .numeric, "latest publication year"⟩
  | .narrative =>
    ⟨"nar", .word, "%w.speech", .presence narrativeTable, "narrative, outside any speech (y, n)"⟩

/-- All attributes in the order in which they are listed for readers. -/
def all : List Attribute :=
  [.spelling, .headword, .partOfSpeech, .wordClass, .majorWordClass, .speaker, .speakerGender,
    .semanticTag, .isVerse, .metricalShape, .speakerMortality, .wordPartCount, .authorName,
    .authorContemporary, .corpusTag, .corpusTitle, .workTitleFull, .workTitleShort, .workTag,
    .workPartTitleFull, .workPartTitleShort, .workPartTag, .publicationYearEarly,
    .publicationYearLate, .narrative]

def mnemonic (attr : Attribute) : String :=
  attr.entry.mnemonic

def domain (attr : Attribute) : ValueDomain :=
  attr.entry.domain

def entity (attr : Attribute) : Entity :=
  attr.entry.entity

/-- Whether the text may carry a relation such as `>=`. -/
def allowsRelation (attr : Attribute) : Bool :=
  attr.domain = .numeric

/-- The attribute with a mnemonic, in either case. -/
def ofMnemonic? (name : String) : Option Attribute :=
  let lower := String.ofList (name.toList.map Text.lowerAscii)
  all.find? fun attr => attr.mnemonic = lower

/-- The code of a literal, which must be exactly one letter of the table. -/
def decodeLiteral? (attr : Attribute) (text : String) : Option Nat := do
  let table ← attr.domain.table?
  match text.toList with
  | [c] => (table.find? fun entry => entry.accepts c).map LetterCode.code
  | _ => none

/-- Replace every letter of the table by the digit of its code. -/
def decodePattern (attr : Attribute) (text : String) : String :=
  match attr.domain.table? with
  | none => text
  | some table => String.ofList <| text.toList.map fun c =>
    ((table.find? fun entry => entry.accepts c).map LetterCode.digit).getD c

/-- Replace every digit of a code by its first letter. -/
def encodeText (attr : Attribute) (text : String) : String :=
  match attr.domain.table? with
  | none => text
  | some table => String.ofList <| text.toList.map fun c =>
    ((table.find? fun entry => entry.digit = c).map LetterCode.canonical).getD c

end Attribute

end CorpusQuery
