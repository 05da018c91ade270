import CorpusQuery.Pattern.Expression

namespace CorpusQuery
namespace Pattern

/-!
# Searching

Position `i` of a text of length `n` stands before the character with index
`i`, and position `n` at the end.  An expression relates the positions where a
match can start to those where it can then end.  Whether it occurs in the text
is whether that relation holds anywhere.

A set of positions is a number whose bit `i` tells whether position `i` is in
it.  A relation lists, for every start, the set of ends.  It is computed once
for every part of the expression, so nested repetitions cost no more than
their number.
-/

/-- A set of positions by its bits. -/
abbrev Positions := Nat

/-- The ends of matches, listed by their starts. -/
abbrev Reach := List Positions

namespace Reach

/-- Passing one character that satisfies a test. -/
def ofTest (test : Char -> Bool) (index : Nat) : List Char -> Reach
  | [] => [0]
  | c :: rest => (if test c then 2 ^ (index + 1) else 0) :: ofTest test (index + 1) rest

/-- Staying at a position whose surroundings satisfy a condition. -/
def ofSurroundings (holds : Surroundings) (index : Nat) (before : Option Char) :
    List Char -> Reach
  | [] => [if holds before none then 2 ^ index else 0]
  | c :: rest =>
    (if holds before (some c) then 2 ^ index else 0) ::
      ofSurroundings holds (index + 1) (some c) rest

/-- Staying anywhere. -/
def stay (text : List Char) : Reach :=
  ofSurroundings (fun _ _ => true) 0 none text

/-- The ends reached from a set of starts. -/
def image : Reach -> Positions -> Positions
  | [], _ => 0
  | ends :: rest, starts => (if starts % 2 = 1 then ends else 0) ||| image rest (starts / 2)

/-- One match after another. -/
def andThen (first second : Reach) : Reach :=
  first.map second.image

/-- One match or another. -/
def orElse (first second : Reach) : Reach :=
  List.zipWith (· ||| ·) first second

/-- A number of further matches. -/
def times (step : Reach) : Nat -> Reach -> Reach
  | 0, reach => reach
  | count + 1, reach => times step count (reach.andThen step)

end Reach

namespace Expression

/-- Where matches can end, by where they start.

More repetitions than there are positions reach nothing new: a run that long
has a match that stays in place, and such a match may be left out or repeated. -/
def reach (text : List Char) : Expression -> Reach
  | .empty => .stay text
  | .one set => .ofTest (fun c => set.contains c.toNat) 0 text
  | .look holds => .ofSurroundings holds 0 none text
  | .sequence first second => (first.reach text).andThen (second.reach text)
  | .either first second => (first.reach text).orElse (second.reach text)
  | .repeated body least most =>
    let enough := text.length + 1
    let step := body.reach text
    let extra := match most with
      | none => enough
      | some most => min (most - least) enough
    (Reach.stay text |> step.times (min least enough))
      |> ((Reach.stay text).orElse step).times extra
  | .captured body => body.reach text

/-- Whether some part of the text matches. -/
def occursIn (expression : Expression) (text : List Char) : Bool :=
  (expression.reach text).any (· != 0)

end Expression

end Pattern
end CorpusQuery
