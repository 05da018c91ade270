import CorpusQuery.Pattern.Property
import CorpusQuery.Unicode.Case

namespace CorpusQuery
namespace Pattern

/-!
# What patterns mean

An expression is a pattern with its flags applied: every single-character part
is a set of code points, every assertion a test on the characters around a
position.  Making the expression can still fail, when a property has no such
name or when a part written without Unicode could match something that is not
a character.

The size of an expression is an estimate, in bytes, of the automaton that
would run it.  Repetition multiplies it, and patterns beyond the limit are
refused.
-/

open Unicode

/-- A condition on the characters before and after a position. -/
abbrev Surroundings := Option Char -> Option Char -> Bool

inductive Expression where
  | empty
  | one (set : CodeSet)
  | look (holds : Surroundings)
  | sequence (first second : Expression)
  | either (first second : Expression)
  | repeated (body : Expression) (least : Nat) (most : Option Nat)
  | captured (body : Expression)

/-- The switches in force. -/
structure Flags where
  caseless : Bool := false
  multiLine : Bool := false
  dotAll : Bool := false
  unicode : Bool := true
  crlf : Bool := false

namespace Flags

def set (flags : Flags) : Flag × Bool -> Flags
  | (.caseless, state) => { flags with caseless := state }
  | (.multiLine, state) => { flags with multiLine := state }
  | (.dotAll, state) => { flags with dotAll := state }
  | (.unicode, state) => { flags with unicode := state }
  | (.crlf, state) => { flags with crlf := state }
  | (.swapGreed, _) | (.verbose, _) => flags

def apply (flags : Flags) (change : FlagChange) : Flags :=
  change.foldl set flags

/-- The characters taken for the same as a given one.  Without Unicode only
ASCII letters have such partners. -/
def partners (flags : Flags) (code : Nat) : List Nat :=
  if flags.unicode then foldPartners code
  else if 0x41 ≤ code ∧ code ≤ 0x5A then [code + 0x20]
  else if 0x61 ≤ code ∧ code ≤ 0x7A then [code - 0x20]
  else []

/-- Close a set under the partners of its members when case is ignored. -/
def fold (flags : Flags) (set : CodeSet) : CodeSet :=
  if flags.caseless then
    ⟨fun code => set.contains code || (flags.partners code).any set.contains, 2 * set.spans⟩
  else set

/-- Without Unicode a set must stay within ASCII, since the other bytes are no
characters. -/
def guardAscii (flags : Flags) (set : CodeSet) : Option CodeSet :=
  if !flags.unicode && (List.range 128).any fun i => set.contains (128 + i) then none
  else some set

/-- Ignore case first, then negate. -/
def foldAndNegate (flags : Flags) (negated : Bool) (set : CodeSet) : Option CodeSet :=
  let folded := flags.fold set
  flags.guardAscii (if negated then folded.compl else folded)

/-- The code of a character inside a class. -/
def classCode? (flags : Flags) (literal : Literal) : Option Nat :=
  let code := literal.char.toNat
  if flags.unicode || code < 0x80 then some code else none

def shorthandSet? (flags : Flags) (negated : Bool) (kind : Shorthand) : Option CodeSet :=
  let set := if flags.unicode then kind.unicodeSet else kind.asciiSet
  flags.guardAscii (if negated then set.compl else set)

end Flags

def SetOperation.apply : SetOperation -> CodeSet -> CodeSet -> CodeSet
  | .intersection => .inter
  | .difference => .diff
  | .symmetricDifference => .symmDiff

namespace ClassTree

mutual

/-- The members of a class under given flags. -/
def set? (flags : Flags) : ClassTree -> Option CodeSet
  | .nothing => some .empty
  | .literal written => (flags.classCode? written).map .single
  | .range low high => do
    return .range (← flags.classCode? low) (← flags.classCode? high)
  | .ascii negated ranges => flags.foldAndNegate negated (.ofRanges ranges)
  | .property negated query => do
    if flags.unicode then flags.foldAndNegate negated (← query.set?) else none
  | .shorthand negated kind => flags.shorthandSet? negated kind
  | .bracket negated body => do flags.foldAndNegate negated (← body.set? flags)
  | .union items => unionSet? flags items
  | .combined operation left right => do
    return operation.apply (flags.fold (← left.set? flags)) (flags.fold (← right.set? flags))

def unionSet? (flags : Flags) : List ClassTree -> Option CodeSet
  | [] => some .empty
  | item :: rest => do return .union (← item.set? flags) (← unionSet? flags rest)

end

end ClassTree

namespace Flags

/-- A character outside classes.  A byte escape beyond ASCII is refused when
Unicode is off. -/
def literal? (flags : Flags) (literal : Literal) : Option Expression :=
  let code := literal.char.toNat
  if !flags.unicode && literal.namesByte && 0x80 ≤ code then none
  else some (.one (flags.fold (.single code)))

/-- Any character, by default other than a line end. -/
def anyChar? (flags : Flags) : Option Expression :=
  if !flags.unicode then none
  else if flags.dotAll then some (.one (.range 0 maxCode))
  else if flags.crlf then some (.one (CodeSet.ofRanges [(0xA, 0xA), (0xD, 0xD)]).compl)
  else some (.one (CodeSet.single 0xA).compl)

/-- Whether a neighbour exists and is a word character. -/
def isWord (flags : Flags) : Option Char -> Bool
  | none => false
  | some c => if flags.unicode then isWordCode c.toNat else isAsciiWordCode c.toNat

def surroundings (flags : Flags) : Assertion -> Surroundings
  | .textStart => fun before _ => before.isNone
  | .textEnd => fun _ after => after.isNone
  | .lineStart => fun before after =>
    before.isNone || flags.multiLine &&
      (before = some '\n' || flags.crlf && before = some '\r' && after != some '\n')
  | .lineEnd => fun before after =>
    after.isNone || flags.multiLine &&
      (if flags.crlf then after = some '\r' || after = some '\n' && before != some '\r'
        else after = some '\n')
  | .wordBoundary => fun before after => flags.isWord before != flags.isWord after
  | .notWordBoundary => fun before after => flags.isWord before == flags.isWord after
  | .wordStart => fun before after => !flags.isWord before && flags.isWord after
  | .wordEnd => fun before after => flags.isWord before && !flags.isWord after
  | .wordStartHalf => fun before _ => !flags.isWord before
  | .wordEndHalf => fun _ after => !flags.isWord after

end Flags

namespace Tree

mutual

/-- The expression of a tree and the flags in force behind it. -/
def expression? (flags : Flags) : Tree -> Option (Expression × Flags)
  | .nothing => some (.empty, flags)
  | .flags change => some (.empty, flags.apply change)
  | .literal written => do return (← flags.literal? written, flags)
  | .anyChar => do return (← flags.anyChar?, flags)
  | .assertion condition => some (.look (flags.surroundings condition), flags)
  | .charClass members => do return (.one (← members.set? flags), flags)
  | .repeated body least most => do
    let (inner, after) ← body.expression? flags
    return (.repeated inner least most, after)
  | .group captures change body => do
    let (inner, _) ← body.expression? (flags.apply change)
    return (if captures then .captured inner else inner, flags)
  | .alternation branches => branchesExpression? flags branches
  | .sequence items => itemsExpression? flags items

def itemsExpression? (flags : Flags) : List Tree -> Option (Expression × Flags)
  | [] => some (.empty, flags)
  | item :: rest => do
    let (first, between) ← item.expression? flags
    let (second, after) ← itemsExpression? between rest
    return (.sequence first second, after)

def branchesExpression? (flags : Flags) : List Tree -> Option (Expression × Flags)
  | [] => some (.one .empty, flags)
  | [branch] => branch.expression? flags
  | branch :: next :: rest => do
    let (first, between) ← branch.expression? flags
    let (second, after) ← branchesExpression? between (next :: rest)
    return (.either first second, after)

end

end Tree

namespace Expression

/-- Bytes for one state of the automaton. -/
def stateSize : Nat := 32

/-- Whether a match cannot but stay in place. -/
def staysInPlace : Expression -> Bool
  | .empty | .look _ => true
  | .one _ => false
  | .sequence first second | .either first second => first.staysInPlace && second.staysInPlace
  | .repeated body _ most => body.staysInPlace || most = some 0
  | .captured body => body.staysInPlace

/-- The bytes that repeating a part takes. -/
def repeatedSize (part least : Nat) : Option Nat -> Nat
  | none => (part + stateSize) * max 1 least
  | some most => (part + if least < most then stateSize else 0) * most

/-- The estimated size of the automaton in bytes.  A part that stays in place is
built at most once, however often it is repeated. -/
def size : Expression -> Nat
  | .empty => 0
  | .one set => stateSize * (if set.spans ≤ 1 then 1 else 2 * set.spans)
  | .look _ => stateSize
  | .sequence first second => first.size + second.size
  | .either first second => first.size + second.size + stateSize
  | .repeated body least most =>
    if body.staysInPlace then repeatedSize body.size (min 1 least) (some (min 1 (most.getD 1)))
    else repeatedSize body.size least most
  | .captured body => body.size + 2 * stateSize

/-- The largest size accepted. -/
def sizeLimit : Nat := 10 * 1024 * 1024

end Expression

end Pattern
end CorpusQuery
