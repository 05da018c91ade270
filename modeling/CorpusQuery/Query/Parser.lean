import CorpusQuery.Comparison
import CorpusQuery.Pattern
import CorpusQuery.Query
import CorpusQuery.Token.Scanner

namespace CorpusQuery

/-!
# Reading queries

Each level of a query reads its members and looks at one token behind them: a
separator of the level means that another member follows, any other token is
taken back for the level above.  Only a whole query insists on the end of the
input.

The separator loop carries a bound on its steps.  A separator takes one
character of the input, so the number of characters left bounds the loop.
-/

variable [Pattern.Engine]

/-- Reading with a scanner.  The scanner survives a fault. -/
abbrev ParseM := ExceptT Fault (StateM Scanner)

namespace Parser

def next : ParseM Token := do
  let (result, scanner) := (← get).next
  set scanner
  match result with
  | .ok token => return token
  | .error fault => throw fault

def pushBack : ParseM Unit :=
  modify Scanner.pushBack

/-- A fault at a token. -/
def faultAt (scanner : Scanner) (cause : Cause) (token : Token) : Fault where
  cause := cause
  fragment := token.text
  parsed := scanner.consumed token.position
  position := token.position

def failAt {α : Type} (cause : Cause) (token : Token) : ParseM α := do
  throw (faultAt (← get) cause token)

/-- Remove the braces of a pattern.  Without braces on both ends there is none. -/
def stripBraces (text : String) : Option String :=
  match text.toList with
  | '{' :: rest =>
    match rest.reverse with
    | '}' :: inner => some (String.ofList inner.reverse)
    | _ => none
  | _ => none

/-- The term that a text makes, or what is wrong with the text. -/
def termOfText (attr : Attribute) (negated : Bool) (written : String) : Except Cause Term :=
  let inner := stripBraces written
  let text := inner.getD written
  let isPattern := inner.isSome && !text.isEmpty
  let term : Term := { attr, text, negated, isPattern }
  match attr.domain with
  | .numeric =>
    if text.isEmpty then .error .emptyTerm
    else if isPattern || (splitComparison? text).isNone then .error .badNumber
    else .ok { term with text := Text.trim text }
  | .categorical _ | .presence _ =>
    if text.isEmpty then .error .emptyTerm
    else if isPattern then
      let decoded := attr.decodePattern text
      if Pattern.isValid decoded then .ok { term with text := decoded } else .error .badPattern
    else
      match attr.decodeLiteral? text with
      | some code => .ok { term with text := Nat.repr code }
      | none => .error .badCategory
  | .text | .externalCodes =>
    if isPattern && !Pattern.isValid text then .error .badPattern else .ok term

/-- Build the term of a token, reporting faults at the token. -/
def buildTerm (attr : Attribute) (negated : Bool) (token : Token) : ParseM Term :=
  match termOfText attr negated token.text with
  | .ok term => return term
  | .error cause => failAt cause token

/-- Everything behind `mnemonic(`, the closing parenthesis included. -/
def payload (attr : Attribute) (negated : Bool) : ParseM Term := do
  let token ← next
  if token.isMark .closeParen then
    buildTerm attr negated ⟨.word, "", token.position⟩
  else if token.isText then
    let term ← buildTerm attr negated token
    let close ← next
    if close.isMark .closeParen then return term
    else if close.isEnding then failAt .endsTooSoon close
    else failAt .badElement close
  else if token.isEnding then failAt .endsTooSoon token
  else failAt .badElement token

/-- A term from its name on, the negation being read. -/
def termFrom (negated : Bool) (token : Token) : ParseM Term := do
  match token.kind with
  | .word =>
    let after ← next
    if after.isMark .openParen then
      match Attribute.ofMnemonic? token.text with
      | some attr => payload attr negated
      | none => failAt .unknownAttribute token
    else
      pushBack
      buildTerm .spelling negated token
  | .ending =>
    if (← get).isBlank then failAt .badElement token else failAt .endsTooSoon token
  | _ => failAt .badElement token

/-- A mnemonic with its text in parentheses, or a bare word, which tests the
spelling.  A bang before it negates it. -/
def term : ParseM Term := do
  let token ← next
  if token.isMark .bang then termFrom true (← next) else termFrom false token

/-- Further members as long as the separator comes next. -/
def membersAfter {α β : Type} (separator : Mark) (member : ParseM α) (add : β -> α -> β) :
    Nat -> β -> ParseM β
  | 0, whole => return whole
  | bound + 1, whole => do
    let token ← next
    if token.isMark separator then
      let further ← member
      membersAfter separator member add bound (add whole further)
    else
      pushBack
      return whole

/-- A bound on the tokens left. -/
def tokensLeft (scanner : Scanner) : Nat :=
  scanner.input.length + 2

def termSet : ParseM TermSet := do
  let first ← term
  membersAfter .colon term TermSet.push (tokensLeft (← get)) { first }

def wordPosition : ParseM WordPosition := do
  let first ← termSet
  membersAfter .semicolon termSet WordPosition.push (tokensLeft (← get)) { first }

def phrase : ParseM Phrase := do
  let first ← wordPosition
  membersAfter .dollar wordPosition Phrase.push (tokensLeft (← get)) { first }

/-- Further phrases up to the end of the input. -/
def phrasesAfter : Nat -> Query -> ParseM Query
  | 0, whole => return whole
  | bound + 1, whole => do
    let token ← next
    if token.isMark .bar then
      let further ← phrase
      phrasesAfter bound (whole.push further)
    else if token.isEnding then return whole
    else failAt .badElement token

/-- A whole query. -/
def query : ParseM Query := do
  let first ← phrase
  phrasesAfter (tokensLeft (← get)) { first }

end Parser

/-- Run a reader on a scanner. -/
def ParseM.runOn {α : Type} (parser : ParseM α) (scanner : Scanner) : Except Fault α × Scanner :=
  (ExceptT.run parser).run scanner

/-- Read a query. -/
def Query.parse (text : String) : Except Fault Query :=
  (Parser.query.runOn (.ofText text)).1

end CorpusQuery
