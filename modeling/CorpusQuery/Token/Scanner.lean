import CorpusQuery.Fault
import CorpusQuery.Token

namespace CorpusQuery

/-!
# The scanner

A scanner hands out the tokens of a text one by one.  It can take back the
token handed out last, and it knows whether it has handed out any token besides
the end of input.

A fault does not spoil the scanner: it stays at the character where reading
stopped and goes on from there when asked again.
-/

structure Scanner where
  input : List Char
  /-- Offset of the next character to read. -/
  position : Nat
  /-- The token handed out last, as long as it can be taken back. -/
  last : Option Token
  /-- A token taken back, to be handed out next. -/
  pushed : Option Token
  /-- Whether a token other than the end of input has been handed out. -/
  sawToken : Bool

namespace Scanner

def ofText (text : String) : Scanner :=
  ⟨text.toList, 0, none, none, false⟩

/-- The text before an offset. -/
def consumed (scanner : Scanner) (position : Nat) : String :=
  String.ofList (scanner.input.take position)

/-- No token besides the end of input has been handed out. -/
def isBlank (scanner : Scanner) : Bool :=
  !scanner.sawToken

/-- The characters not yet read. -/
def rest (scanner : Scanner) : List Char :=
  scanner.input.drop scanner.position

/-- A fault in a token that starts at a given offset.  Its text runs from there
to the character where reading stopped. -/
def faultFrom (scanner : Scanner) (cause : Cause) (start : Nat) : Fault where
  cause := cause
  fragment := String.ofList ((scanner.input.take (scanner.position + 1)).drop start)
  parsed := scanner.consumed start
  position := scanner.position

/-- How reading a quoted text ends, with the number of characters read after
the opening quote. -/
inductive QuotedEnd where
  | closed (text : List Char) (length : Nat)
  | badEscape (c : Char) (length : Nat)
  | unterminated (length : Nat)

namespace QuotedEnd

/-- Account for a character of the text and for the characters that wrote it. -/
def prepend (c : Char) (written : Nat) : QuotedEnd -> QuotedEnd
  | .closed text length => .closed (c :: text) (written + length)
  | .badEscape bad length => .badEscape bad (written + length)
  | .unterminated length => .unterminated (written + length)

end QuotedEnd

/-- Read a quoted text after its opening quote.  The quote and the backslash
are written with a backslash before them, and nothing else is. -/
def quotedEnd : List Char -> QuotedEnd
  | [] => .unterminated 0
  | ['\\'] => .unterminated 1
  | '\\' :: c :: rest =>
    if c = '"' ∨ c = '\\' then (quotedEnd rest).prepend c 2 else .badEscape c 1
  | c :: rest => if c = '"' then .closed [] 1 else (quotedEnd rest).prepend c 1

/-- The kind of a bare word. -/
def wordKind (word : List Char) : TokenKind :=
  if word.all Text.isDigit then .number else .word

/-- Read the token that starts at the current position, where no blank is. -/
def scanToken (scanner : Scanner) : Except Fault Token × Scanner :=
  let start := scanner.position
  let moveTo (position : Nat) : Scanner := { scanner with position := position }
  match scanner.rest with
  | [] => (.ok (.ending start), scanner)
  | c :: after =>
    match Mark.ofChar? c with
    | some mark => (.ok ⟨.mark mark, String.singleton c, start⟩, moveTo (start + 1))
    | none =>
      if c = '"' then
        match quotedEnd after with
        | .closed text length =>
          (.ok ⟨.quoted, String.ofList text, start⟩, moveTo (start + 1 + length))
        | .badEscape bad length =>
          let stopped := moveTo (start + 1 + length)
          (.error (stopped.faultFrom (.invalidEscape bad) start), stopped)
        | .unterminated length =>
          let stopped := moveTo (start + 1 + length)
          (.error (stopped.faultFrom .unterminatedText start), stopped)
      else if isWordChar c then
        let word := (c :: after).takeWhile isWordChar
        (.ok ⟨wordKind word, String.ofList word, start⟩, moveTo (start + word.length))
      else (.error (scanner.faultFrom (.unexpectedChar c) start), scanner)

/-- Pass the blanks at the current position. -/
def skipBlanks (scanner : Scanner) : Scanner :=
  { scanner with position := scanner.position + (scanner.rest.takeWhile Text.isBlank).length }

/-- Read the next token of the text, blanks being passed first. -/
def scan (scanner : Scanner) : Except Fault Token × Scanner :=
  scanner.skipBlanks.scanToken

/-- Note that a token is handed out. -/
def handOut (scanner : Scanner) (token : Token) : Scanner :=
  { scanner with
    last := some token
    pushed := none
    sawToken := scanner.sawToken || !token.isEnding }

/-- Hand out the next token: the one taken back if there is one, else the next
of the text. -/
def next (scanner : Scanner) : Except Fault Token × Scanner :=
  match scanner.pushed with
  | some token => (.ok token, scanner.handOut token)
  | none =>
    match scanner.scan with
    | (.ok token, after) => (.ok token, after.handOut token)
    | (.error fault, after) => (.error fault, after)

/-- Take back the token handed out last.  Only one token is kept, and taking
back twice does nothing more. -/
def pushBack (scanner : Scanner) : Scanner :=
  match scanner.pushed with
  | some _ => scanner
  | none => { scanner with pushed := scanner.last, last := none }

/-- The tokens of a text up to its end or to the first fault.  Every token but
the last takes at least one character, which bounds their number. -/
def drain : Nat -> Scanner -> List (Except Fault Token)
  | 0, _ => []
  | bound + 1, scanner =>
    match scanner.next with
    | (.ok token, after) =>
      if token.isEnding then [.ok token] else .ok token :: drain bound after
    | (.error fault, _) => [.error fault]

/-- All tokens of a text, the last being its end or a fault. -/
def tokens (text : String) : List (Except Fault Token) :=
  drain (text.length + 1) (ofText text)

end Scanner

end CorpusQuery
