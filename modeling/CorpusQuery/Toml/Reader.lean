import CorpusQuery.Toml.Quoted
import CorpusQuery.Toml.Scalar

namespace CorpusQuery
namespace Toml

/-!
# Reading TOML

A text is read line by line into the assignments and headers of a document.
Only inside square brackets may a value go on over several lines.  Nesting of
values and the number of parts of a key are limited.

The recursive readers carry a bound on their steps.  Between two steps that
take no character stands at least one that does, so twice the length of the
text is bound enough.
-/

open Quoted (isSpace isTextChar isBreakBefore dropBreak)

/-- Keys with so many parts, and values nested so deep, are refused. -/
def nestingLimit : Nat := 80

def dropSpaces (chars : List Char) : List Char :=
  chars.dropWhile isSpace

/-- Drop a comment, which runs to the end of the line. -/
def dropComment : List Char -> List Char
  | '#' :: rest => rest.dropWhile isTextChar
  | chars => chars

/-- Pass the rest of a line: blanks, perhaps a comment, and the line break or
the end of the text. -/
def endLine? (chars : List Char) : Option (List Char) :=
  match dropComment (dropSpaces chars) with
  | [] => some []
  | c :: rest => if isBreakBefore c rest then some (dropBreak (c :: rest)) else none

/-- Pass blanks, comments and line breaks.  A comment must end with a line
break. -/
def skipLines? : Nat -> List Char -> Option (List Char)
  | 0, _ => none
  | bound + 1, chars =>
    match dropSpaces chars with
    | [] => some []
    | c :: rest =>
      if isBreakBefore c rest then skipLines? bound (dropBreak (c :: rest))
      else if c = '#' then
        match rest.dropWhile isTextChar with
        | [] => none
        | next :: after =>
          if isBreakBefore next after then skipLines? bound (dropBreak (next :: after)) else none
      else some (c :: rest)

def isBareKeyChar (c : Char) : Bool :=
  c.isAlphanum || c = '-' || c = '_'

/-- One part of a key: bare, or in single or double quotes. -/
def keyPart? : List Char -> Option (String × List Char)
  | '"' :: rest => (Quoted.basic? rest).map fun (text, rest) => (String.ofList text, rest)
  | '\'' :: rest => (Quoted.literal? rest).map fun (text, rest) => (String.ofList text, rest)
  | chars =>
    let bare := chars.takeWhile isBareKeyChar
    if bare.isEmpty then none else some (String.ofList bare, chars.dropWhile isBareKeyChar)

/-- Parts of a key with dots between them and blanks around them. -/
def keyParts? : Nat -> List Char -> Option (List String × List Char)
  | 0, _ => none
  | bound + 1, chars => do
    let (part, rest) ← keyPart? (dropSpaces chars)
    match dropSpaces rest with
    | '.' :: rest => do
      let (parts, rest) ← keyParts? bound rest
      return (part :: parts, rest)
    | rest => return ([part], rest)

/-- A key as its last part and the parts before it. -/
def keyPath? (chars : List Char) : Option (KeyPath × List Char) := do
  let (parts, rest) ← keyParts? (chars.length + 1) chars
  if parts.length < nestingLimit then
    match parts.reverse with
    | [] => none
    | key :: parents => return (⟨parents.reverse, key⟩, rest)
  else none

mutual

/-- A value at the start of a text, inside so many others. -/
def value? : Nat -> Nat -> List Char -> Option (Node × List Char)
  | 0, _, _ => none
  | bound + 1, depth, chars =>
    match chars with
    | [] => none
    | c :: rest =>
      if c = '"' ∨ c = '\'' then
        (Quoted.text? chars).map fun (text, rest) => (.text (String.ofList text), rest)
      else if c = '[' then
        if depth + 1 < nestingLimit then do
          let (items, rest) ← items? bound (depth + 1) rest
          return (.array items, rest)
        else none
      else if c = '\x7b' then
        if depth + 1 < nestingLimit then do
          match dropSpaces rest with
          | '\x7d' :: rest => return (.inlineTable false [], rest)
          | rest =>
            let (entries, rest) ← fields? bound (depth + 1) [] rest
            return (.inlineTable false entries, rest)
        else none
      else Scalar.read? chars

/-- The items of a list up to its closing bracket. -/
def items? : Nat -> Nat -> List Char -> Option (List Node × List Char)
  | 0, _, _ => none
  | bound + 1, depth, chars => do
    let chars ← skipLines? (chars.length + 1) chars
    match chars with
    | ']' :: rest => return ([], rest)
    | chars =>
      let (item, rest) ← value? bound depth chars
      let rest ← skipLines? (rest.length + 1) rest
      match rest with
      | ',' :: rest => do
        let (items, rest) ← items? bound depth rest
        return (item :: items, rest)
      | ']' :: rest => return ([item], rest)
      | _ => none

/-- The fields of an inline table up to its closing brace, added to those
before. -/
def fields? : Nat -> Nat -> Entries -> List Char -> Option (Entries × List Char)
  | 0, _, _, _ => none
  | bound + 1, depth, entries, chars => do
    let (path, rest) ← keyPath? chars
    match rest with
    | '=' :: rest =>
      let (node, rest) ← value? bound depth (dropSpaces rest)
      let entries ← assignInline? path.key node path.parents entries
      match dropSpaces rest with
      | ',' :: rest => fields? bound depth entries rest
      | '\x7d' :: rest => return (entries, rest)
      | _ => none
    | _ => none

end

/-- A header in single or double brackets. -/
def header? (chars : List Char) : Option (Bool × KeyPath × List Char) :=
  match chars with
  | '[' :: '[' :: rest => do
    let (path, rest) ← keyPath? rest
    match rest with
    | ']' :: ']' :: rest => return (true, path, rest)
    | _ => none
  | '[' :: rest => do
    let (path, rest) ← keyPath? rest
    match rest with
    | ']' :: rest => return (false, path, rest)
    | _ => none
  | _ => none

/-- An assignment. -/
def assignment? (chars : List Char) : Option (Assignment × List Char) := do
  let (path, rest) ← keyPath? chars
  match rest with
  | '=' :: rest =>
    let (node, rest) ← value? (2 * rest.length + 2) 0 (dropSpaces rest)
    return (⟨path, node⟩, rest)
  | _ => none

/-- The lines of a text from the current one on. -/
def outline? : Nat -> List Char -> Option Outline
  | 0, _ => none
  | bound + 1, chars =>
    match dropSpaces chars with
    | [] => some ⟨[], []⟩
    | c :: rest =>
      if c = '#' ∨ isBreakBefore c rest then do
        outline? bound (← endLine? (c :: rest))
      else if c = '[' then do
        let (doubled, path, rest) ← header? (c :: rest)
        let following ← outline? bound (← endLine? rest)
        return ⟨[], ⟨doubled, path, following.assignments⟩ :: following.sections⟩
      else do
        let (assignment, rest) ← assignment? (c :: rest)
        let following ← outline? bound (← endLine? rest)
        return ⟨assignment :: following.assignments, following.sections⟩

/-- A byte order mark at the start is passed over. -/
def dropByteOrderMark : List Char -> List Char
  | '﻿' :: rest => rest
  | chars => chars

/-- Read a document, none when the text is not one. -/
def read? (text : String) : Option Entries := do
  let chars := dropByteOrderMark text.toList
  (← outline? (chars.length + 1) chars).entries?

end Toml
end CorpusQuery
