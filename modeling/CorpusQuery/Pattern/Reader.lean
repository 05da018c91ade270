import CorpusQuery.Pattern.Property
import CorpusQuery.Text.Blank
import CorpusQuery.Text.Decimal
import CorpusQuery.Text.Hexadecimal

namespace CorpusQuery
namespace Pattern

/-!
# Reading patterns

A pattern is read from left to right into its tree; `none` means that it is no
pattern.  In verbose mode blanks and comments between the parts are skipped.
The mode is part of the reading state because flags may switch it on in the
middle, and a group ends with the mode it started with.

The recursive readers carry a bound on the remaining steps.  Every step takes
at least one character, so the length of the pattern is bound enough.
-/

/-- What is left to read, the verbose mode, and the group names used so far. -/
structure Reader where
  rest : List Char
  verbose : Bool := false
  names : List String := []

abbrev ReadM := StateT Reader Option

namespace Reader

/-- Drop blanks and comments.  A comment runs to the end of its line. -/
def dropLayout (inComment : Bool) : List Char -> List Char
  | [] => []
  | c :: rest =>
    if inComment then dropLayout (c != '\n') rest
    else if Text.isBlank c then dropLayout false rest
    else if c = '#' then dropLayout true rest
    else c :: rest

def peek : ReadM (Option Char) := do
  return (← get).rest.head?

/-- The next character, which must exist. -/
def current : ReadM Char := do
  match (← get).rest with
  | [] => failure
  | c :: _ => return c

def refuse {α : Type} : ReadM α :=
  failure

def skipLayout : ReadM Unit :=
  modify fun reader =>
    if reader.verbose then { reader with rest := dropLayout false reader.rest } else reader

/-- Pass one character. -/
def bump : ReadM Unit :=
  modify fun reader => { reader with rest := reader.rest.drop 1 }

/-- Pass one character and the layout behind it. -/
def advance : ReadM Unit := do
  bump
  skipLayout

/-- Pass one character and layout; more must follow. -/
def advanceWithin : ReadM Unit := do
  advance
  discard current

/-- Pass one given character. -/
def expect (c : Char) : ReadM Unit := do
  if (← current) = c then bump else refuse

/-- Pass a given text if it comes next. -/
def accept (text : List Char) : ReadM Bool := do
  if text.isPrefixOf (← get).rest then
    modify fun reader => { reader with rest := reader.rest.drop text.length }
    return true
  else return false

/-- Characters as long as they satisfy a test, with layout passed in between. -/
def collect (keep : Char -> Bool) : Nat -> ReadM (List Char)
  | 0 => return []
  | bound + 1 => do
    match (← peek) with
    | none => return []
    | some c =>
      if keep c then
        advance
        return c :: (← collect keep bound)
      else return []

def collectAll (keep : Char -> Bool) : ReadM (List Char) := do
  collect keep (← get).rest.length

/-- Characters as long as they satisfy a test, layout included. -/
def takeAll (keep : Char -> Bool) : ReadM (List Char) := do
  let taken := (← get).rest.takeWhile keep
  modify fun reader => { reader with rest := reader.rest.dropWhile keep }
  return taken

/-! ## Characters and escapes -/

/-- A fixed count of digits, layout allowed between them. -/
def hexDigits : Nat -> ReadM (List Char)
  | 0 => return []
  | count + 1 => do
    let c ← current
    if (Text.hexValue? c).isNone then refuse
    if count = 0 then advance else advanceWithin
    return c :: (← hexDigits count)

/-- After `\x`, `\u` or `\U`: digits in braces, or as many as the letter asks. -/
def hexEscape (digitCount : Nat) : ReadM Literal := do
  advanceWithin
  let braced := (← current) = '{'
  let digits ← if braced then do
      advanceWithin
      let digits ← collectAll (· != '}')
      discard current
      advance
      if digits.isEmpty then refuse
      pure digits
    else hexDigits digitCount
  match Text.hexNumber? digits with
  | none => refuse
  | some code =>
    match Text.charOfCode? code with
    | none => refuse
    | some c => return { char := c, namesByte := !braced && digitCount = 2 }

/-- The position of a text inside another. -/
def splitAt? (mark : List Char) (before : List Char) : List Char -> Option (List Char × List Char)
  | [] => none
  | c :: rest =>
    if mark.isPrefixOf (c :: rest) then
      some (before.reverse, (c :: rest).drop mark.length)
    else splitAt? mark (c :: before) rest

/-- A property name, or a property and its value around `!=`, `:` or `=`. -/
def propertyQuery (name : List Char) : PropertyQuery :=
  let split (mark : List Char) := splitAt? mark [] name
  match (split ['!', '=']).orElse fun _ => (split [':']).orElse fun _ => split ['='] with
  | some (property, value) => .valued (String.ofList property) (String.ofList value)
  | none => .named (String.ofList name)

/-- After `\p` or `\P`. -/
def propertyClass (negated : Bool) : ReadM ClassTree := do
  advanceWithin
  let c ← current
  if c = '{' then
    advanceWithin
    let name ← collectAll (· != '}')
    expect '}'
    return .property negated (propertyQuery name)
  else if c = '\\' then refuse
  else
    advance
    return .property negated (.named (String.singleton c))

/-- One thing written in a pattern that is neither grouping nor repetition. -/
inductive Primitive where
  | literal (literal : Literal)
  | anyChar
  | assertion (assertion : Assertion)
  | charClass (tree : ClassTree)

/-- Whether a backslash before the character only takes its meaning away. -/
def isEscapable (c : Char) : Bool :=
  c.toNat < 0x80 && !c.isAlphanum && c != '<' && c != '>'

/-- The special word boundaries written in braces after `\b`. -/
def specialBoundary? : String -> Option Assertion
  | "start" => some .wordStart
  | "end" => some .wordEnd
  | "start-half" => some .wordStartHalf
  | "end-half" => some .wordEndHalf
  | _ => none

/-- After `\b`: a special boundary in braces.  Braces that do not start with a
letter or hyphen are left for a counted repetition. -/
def wordBoundary : ReadM Assertion := do
  let isNameChar (c : Char) : Bool := c.isAlpha || c = '-'
  if (← peek) = some '{' then
    let start ← get
    advanceWithin
    if isNameChar (← current) then
      let name ← collectAll isNameChar
      expect '}'
      match specialBoundary? (String.ofList name) with
      | some assertion => return assertion
      | none => refuse
    else
      set start
      return .wordBoundary
  else return .wordBoundary

/-- An escape, the backslash being the next character. -/
def escape : ReadM Primitive := do
  bump
  let c ← current
  match c with
  | 'x' => return .literal (← hexEscape 2)
  | 'u' => return .literal (← hexEscape 4)
  | 'U' => return .literal (← hexEscape 8)
  | 'p' => return .charClass (← propertyClass false)
  | 'P' => return .charClass (← propertyClass true)
  | _ =>
    bump
    match c with
    | 'd' => return .charClass (.shorthand false .digit)
    | 's' => return .charClass (.shorthand false .space)
    | 'w' => return .charClass (.shorthand false .word)
    | 'D' => return .charClass (.shorthand true .digit)
    | 'S' => return .charClass (.shorthand true .space)
    | 'W' => return .charClass (.shorthand true .word)
    | 'a' => return .literal { char := '\x07' }
    | 'f' => return .literal { char := '\x0c' }
    | 't' => return .literal { char := '\t' }
    | 'n' => return .literal { char := '\n' }
    | 'r' => return .literal { char := '\r' }
    | 'v' => return .literal { char := '\x0b' }
    | 'A' => return .assertion .textStart
    | 'z' => return .assertion .textEnd
    | 'b' => return .assertion (← wordBoundary)
    | 'B' => return .assertion .notWordBoundary
    | '<' => return .assertion .wordStart
    | '>' => return .assertion .wordEnd
    | _ => if isEscapable c then return .literal { char := c } else refuse

def primitive : ReadM Primitive := do
  let c ← current
  match c with
  | '\\' => escape
  | '.' => bump; return .anyChar
  | '^' => bump; return .assertion .lineStart
  | '$' => bump; return .assertion .lineEnd
  | _ => bump; return .literal { char := c }

def Primitive.tree : Primitive -> Tree
  | .literal written => .literal written
  | .anyChar => .anyChar
  | .assertion condition => .assertion condition
  | .charClass members => .charClass members

/-! ## Bracketed classes -/

/-- One end of a range, or one item: an escape or the character itself. -/
def classPrimitive : ReadM Primitive := do
  let c ← current
  if c = '\\' then escape
  else
    bump
    return .literal { char := c }

/-- The first character behind the current one that counts.  Of a comment only
the mark itself is passed over. -/
def peekBehind : ReadM (Option Char) := do
  let reader ← get
  let behind := reader.rest.drop 1
  if !reader.verbose then return behind.head?
  else
    let afterBlanks := behind.dropWhile Text.isBlank
    let found := match afterBlanks with
      | '#' :: comment => comment.dropWhile Text.isBlank
      | other => other
    return if found.isEmpty then behind.head? else found.head?

/-- One item of a class, possibly a range. -/
def classItem : ReadM ClassTree := do
  let first ← classPrimitive
  skipLayout
  let c ← current
  let behind ← peekBehind
  if c != '-' || behind = some ']' || behind = some '-' then
    match first with
    | .literal literal => return .literal literal
    | .charClass tree => return tree
    | _ => refuse
  else
    advanceWithin
    match first, (← classPrimitive) with
    | .literal low, .literal high =>
      if low.char.toNat ≤ high.char.toNat then return .range low high else refuse
    | _, _ => refuse

/-- A class such as `[:alpha:]`, the bracket being the next character.  Nothing
is passed when there is none. -/
def asciiClass : ReadM (Option ClassTree) := do
  match (← get).rest with
  | '[' :: ':' :: rest =>
    let negated := rest.head? = some '^'
    let rest := if negated then rest.drop 1 else rest
    let name := rest.takeWhile (· != ':')
    match rest.dropWhile (· != ':') with
    | ':' :: ']' :: after =>
      match asciiClass? (String.ofList name) with
      | some ranges =>
        modify fun reader => { reader with rest := after }
        return some (.ascii negated ranges)
      | none => return none
    | _ => return none
  | _ => return none

/-- Hyphens at the start of a class stand for themselves. -/
def leadingHyphens : Nat -> ReadM (List ClassTree)
  | 0 => return []
  | bound + 1 => do
    if (← current) = '-' then
      advanceWithin
      return .literal { char := '-' } :: (← leadingHyphens bound)
    else return []

/-- The start of a class: the bracket, whether it is negated, and the items at
the start that need no escape there. -/
def classStart : ReadM (Bool × List ClassTree) := do
  advanceWithin
  let negated := (← current) = '^'
  if negated then advanceWithin
  let hyphens ← leadingHyphens (← get).rest.length
  if hyphens.isEmpty && (← current) = ']' then
    advanceWithin
    return (negated, [.literal { char := ']' }])
  else return (negated, hyphens)

/-- A set operation with its left side. -/
abbrev PendingOperation := Option (SetOperation × ClassTree)

/-- Close the items read so far, the latest first. -/
def closeItems (pending : PendingOperation) (items : List ClassTree) : ClassTree :=
  let items := ClassTree.ofItems items.reverse
  match pending with
  | none => items
  | some (operation, left) => .combined operation left items

/-- Whether a set operation comes next, which is then passed. -/
def setOperation : ReadM (Option SetOperation) := do
  if (← accept ['&', '&']) then return some .intersection
  else if (← accept ['-', '-']) then return some .difference
  else if (← accept ['~', '~']) then return some .symmetricDifference
  else return none

/-- The rest of a class up to its closing bracket. -/
def classRest : Nat -> PendingOperation -> List ClassTree -> ReadM ClassTree
  | 0, _, _ => refuse
  | bound + 1, pending, items => do
    skipLayout
    let c ← current
    if c = ']' then
      bump
      return closeItems pending items
    else if c = '[' then
      match (← asciiClass) with
      | some item => classRest bound pending (item :: items)
      | none =>
        let (negated, start) ← classStart
        let body ← classRest bound none start.reverse
        classRest bound pending (.bracket negated body :: items)
    else
      match (← setOperation) with
      | some operation => classRest bound (some (operation, closeItems pending items)) []
      | none => classRest bound pending ((← classItem) :: items)

/-- A whole class, its bracket being the next character. -/
def bracketedClass : ReadM ClassTree := do
  let bound := (← get).rest.length
  let (negated, start) ← classStart
  return .bracket negated (← classRest bound none start.reverse)

/-! ## Repetition, groups and flags -/

/-- The largest count of a repetition. -/
def maxCount : Nat := UInt32.size - 1

/-- A decimal number with blanks around it. -/
def count : ReadM Nat := do
  discard (takeAll Text.isBlank)
  let digits ← collectAll Text.isDigit
  discard (collectAll Text.isBlank)
  match Text.natural? digits with
  | some value => if value ≤ maxCount then return value else refuse
  | none => refuse

/-- The counts in braces, the opening brace being the next character. -/
def counts : ReadM (Nat × Option Nat) := do
  advanceWithin
  let least ← count
  let bounds ←
    if (← current) = ',' then do
      advanceWithin
      if (← current) = '}' then pure (least, none)
      else do
        let most ← count
        if least ≤ most then pure (least, some most) else refuse
    else pure (least, some least)
  if (← current) = '}' then
    advance
    return bounds
  else refuse

/-- A question mark behind a repetition makes it lazy, which changes nothing. -/
def lazyMark : ReadM Unit := do
  discard (accept ['?'])

def flag? : Char -> Option Flag
  | 'i' => some .caseless
  | 'm' => some .multiLine
  | 's' => some .dotAll
  | 'U' => some .swapGreed
  | 'u' => some .unicode
  | 'R' => some .crlf
  | 'x' => some .verbose
  | _ => none

/-- Flags up to `:` or `)`.  A flag may occur once, the minus sign once and not
last. -/
def flagItems (enabled : Bool) : Nat -> ReadM FlagChange
  | 0 => refuse
  | bound + 1 => do
    let c ← current
    if c = ':' || c = ')' then return []
    else if c = '-' then
      bump
      let next ← current
      if !enabled || next = ':' || next = ')' then refuse
      flagItems false bound
    else
      match flag? c with
      | none => refuse
      | some flag =>
        bump
        let rest ← flagItems enabled bound
        if rest.any fun item => item.1 = flag then refuse
        return (flag, enabled) :: rest

/-- Whether a character may stand in a group name. -/
def isNameChar (isFirst : Bool) (c : Char) : Bool :=
  if isFirst then c = '_' || Unicode.Property.alphabetic c.toNat
  else c = '_' || c = '.' || c = '[' || c = ']' || Unicode.Property.alphanumeric c.toNat

/-- A group name up to `>`. -/
def groupName : ReadM Unit := do
  let name ← takeAll (· != '>')
  expect '>'
  let text := String.ofList name
  match name with
  | [] => refuse
  | first :: rest =>
    if isNameChar true first && rest.all (isNameChar false) &&
        !(← get).names.contains text then
      modify fun reader => { reader with names := text :: reader.names }
    else refuse

/-- What an opening parenthesis starts. -/
inductive GroupStart where
  | flags (change : FlagChange)
  | body (captures : Bool) (change : FlagChange)

/-- The start of a group, the parenthesis being passed. -/
def groupStart : ReadM GroupStart := do
  skipLayout
  let lookAround := [['?', '='], ['?', '!'], ['?', '<', '='], ['?', '<', '!']]
  let rest := (← get).rest
  if lookAround.any fun mark => mark.isPrefixOf rest then refuse
  if (← accept ['?', 'P', '<']) || (← accept ['?', '<']) then
    groupName
    return .body true []
  else if (← accept ['?']) then
    let change ← flagItems true (← get).rest.length
    let close ← current
    bump
    if close = ')' then
      if change.isEmpty then refuse
      return .flags change
    else return .body false change
  else return .body true []

/-- The verbose mode after a change of flags. -/
def verboseAfter (change : FlagChange) (verbose : Bool) : Bool :=
  ((change.find? fun item => item.1 = .verbose).map Prod.snd).getD verbose

def setVerbose (verbose : Bool) : ReadM Unit :=
  modify fun reader => { reader with verbose := verbose }

/-- Put a repetition on the latest item. -/
def repeatLatest (items : List Tree) (least : Nat) (most : Option Nat) : ReadM (List Tree) :=
  match items with
  | [] => refuse
  | item :: rest =>
    if item.isRepeatable then return .repeated item least most :: rest else refuse

/-- Alternatives up to the end or to a closing parenthesis.  The branches and
the items of the current branch are kept with the latest first. -/
def alternatives : Nat -> List Tree -> List Tree -> ReadM Tree
  | 0, _, _ => refuse
  | bound + 1, branches, items => do
    skipLayout
    let finished := Tree.ofBranches (Tree.ofItems items.reverse :: branches).reverse
    match (← peek) with
    | none | some ')' => return finished
    | some '|' =>
      bump
      alternatives bound (Tree.ofItems items.reverse :: branches) []
    | some '(' =>
      bump
      match (← groupStart) with
      | .flags change =>
        setVerbose (verboseAfter change (← get).verbose)
        alternatives bound branches (.flags change :: items)
      | .body captures change =>
        let outer := (← get).verbose
        setVerbose (verboseAfter change outer)
        let body ← alternatives bound [] []
        expect ')'
        setVerbose outer
        alternatives bound branches (.group captures change body :: items)
    | some '[' =>
      alternatives bound branches (.charClass (← bracketedClass) :: items)
    | some '?' =>
      let items ← repeatLatest items 0 (some 1)
      bump
      lazyMark
      alternatives bound branches items
    | some '*' =>
      let items ← repeatLatest items 0 none
      bump
      lazyMark
      alternatives bound branches items
    | some '+' =>
      let items ← repeatLatest items 1 none
      bump
      lazyMark
      alternatives bound branches items
    | some '{' =>
      if items.isEmpty then refuse
      let (least, most) ← counts
      let items ← repeatLatest items least most
      lazyMark
      alternatives bound branches items
    | some _ =>
      alternatives bound branches ((← primitive).tree :: items)

end Reader

/-- The tree of a pattern, none when the text is not a pattern or nests too
deep. -/
def Tree.ofText? (text : String) : Option Tree := do
  let chars := text.toList
  let (tree, reader) ← (Reader.alternatives (chars.length + 1) [] []).run { rest := chars }
  if reader.rest.isEmpty && tree.depth ≤ maxDepth then some tree else none

end Pattern
end CorpusQuery
