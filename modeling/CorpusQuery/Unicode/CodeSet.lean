namespace CorpusQuery
namespace Unicode

/-!
# Sets of code points

Two presentations are used.  A `RangeTable` is the data of one character
property: closed ranges of code points, written in the source as hexadecimal
text and decoded once.  A `CodeSet` is what a pattern computes with: the
membership test together with a count of the ranges that went into it.  The
count plays no part in membership; it only feeds the estimate of how much
room a pattern takes.
-/

/-- Closed ranges of code points in increasing order. -/
structure RangeTable where
  ranges : Array (Nat × Nat)

namespace RangeTable

/-- Progress of reading range text: the ranges that are complete, the lower
end when a dash has been passed, and the number being read if there is one. -/
structure Reading where
  ranges : Array (Nat × Nat) := #[]
  low : Option Nat := none
  number : Option Nat := none

/-- The value of an upper-case hexadecimal digit. -/
def digit? (c : Char) : Option Nat :=
  if '0' ≤ c ∧ c ≤ '9' then some (c.toNat - '0'.toNat)
  else if 'A' ≤ c ∧ c ≤ 'F' then some (c.toNat - 'A'.toNat + 10)
  else none

namespace Reading

/-- Close the range being read.  A lone number is a range of one. -/
def close (reading : Reading) : Reading :=
  match reading.number with
  | none => reading
  | some high => { ranges := reading.ranges.push (reading.low.getD high, high) }

def step (reading : Reading) (c : Char) : Reading :=
  match digit? c with
  | some d => { reading with number := some (reading.number.getD 0 * 16 + d) }
  | none =>
    if c = '-' then { reading with low := reading.number, number := none }
    else reading.close

end Reading

/-- Read ranges such as `41-5A 61-7A AA`: hexadecimal numbers, a dash inside
a range, blanks or line ends between ranges. -/
def ofText (text : String) : RangeTable :=
  ⟨(text.foldl Reading.step {}).close.ranges⟩

def contains (table : RangeTable) (code : Nat) : Bool :=
  table.ranges.any fun range => range.1 ≤ code && code ≤ range.2

end RangeTable

/-- The largest code point. -/
def maxCode : Nat := 0x10FFFF

/-- A set of code points given by its membership test. -/
structure CodeSet where
  contains : Nat -> Bool
  spans : Nat

namespace CodeSet

def empty : CodeSet :=
  ⟨fun _ => false, 0⟩

def range (low high : Nat) : CodeSet :=
  ⟨fun code => low ≤ code && code ≤ high, 1⟩

def single (code : Nat) : CodeSet :=
  range code code

def ofTable (table : RangeTable) : CodeSet :=
  ⟨table.contains, table.ranges.size⟩

def ofRanges (ranges : List (Nat × Nat)) : CodeSet :=
  ofTable ⟨ranges.toArray⟩

def union (first second : CodeSet) : CodeSet :=
  ⟨fun code => first.contains code || second.contains code, first.spans + second.spans⟩

def inter (first second : CodeSet) : CodeSet :=
  ⟨fun code => first.contains code && second.contains code, first.spans + second.spans⟩

def diff (first second : CodeSet) : CodeSet :=
  ⟨fun code => first.contains code && !second.contains code, first.spans + second.spans⟩

def symmDiff (first second : CodeSet) : CodeSet :=
  ⟨fun code => first.contains code != second.contains code, first.spans + second.spans⟩

def compl (set : CodeSet) : CodeSet :=
  ⟨fun code => !set.contains code, set.spans + 1⟩

def unions (sets : List CodeSet) : CodeSet :=
  sets.foldl union empty

end CodeSet

end Unicode
end CorpusQuery
