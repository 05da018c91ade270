import CorpusQuery.Proofs.Query.Agreement
import CorpusQuery.Proofs.Query.Unfinished

namespace CorpusQuery

/-!
# A text behind another one

A scanner that has reached the end of some front reads what is behind it as a
text of its own.  Tokens and faults are the same but for their places, which count
the characters of the front as well.  The only other trace of the front is that
the scanner may have handed out tokens, which matters for a text without any.
-/

/-- The token, with so many more characters before it. -/
def Token.moved (distance : Nat) (token : Token) : Token :=
  { token with position := distance + token.position }

/-- The fault, with a front before the text. -/
def Fault.behind (front : String) (fault : Fault) : Fault :=
  { fault with parsed := front ++ fault.parsed, position := front.length + fault.position }

namespace Scanner

/-- The second scanner stands in the same text behind a front. -/
structure Aligned (front : String) (scanner scanner' : Scanner) : Prop where
  input : scanner'.input = front.toList ++ scanner.input
  position : scanner'.position = front.length + scanner.position

namespace Aligned

variable {front : String} {scanner scanner' : Scanner}

theorem take_input (aligned : Aligned front scanner scanner') (count : Nat) :
    scanner'.input.take (front.length + count) = front.toList ++ scanner.input.take count := by
  rw [aligned.input, <- String.length_toList, List.take_length_add_append]

theorem rest (aligned : Aligned front scanner scanner') : scanner'.rest = scanner.rest := by
  rw [Scanner.rest, Scanner.rest, aligned.input, aligned.position, <- String.length_toList,
    List.drop_length_add_append]

theorem consumed (aligned : Aligned front scanner scanner') (position : Nat) :
    scanner'.consumed (front.length + position) = front ++ scanner.consumed position := by
  rw [Scanner.consumed, Scanner.consumed, aligned.take_input, String.ofList_append,
    String.ofList_toList]

theorem moveTo (aligned : Aligned front scanner scanner') (position : Nat) :
    Aligned front { scanner with position := position }
      { scanner' with position := front.length + position } :=
  ⟨aligned.input, rfl⟩

theorem faultFrom (aligned : Aligned front scanner scanner') (cause : Cause) (start : Nat) :
    scanner'.faultFrom cause (front.length + start) =
      (scanner.faultFrom cause start).behind front := by
  simp only [Scanner.faultFrom, Fault.behind, aligned.consumed, Fault.mk.injEq, true_and]
  refine ⟨?_, aligned.position⟩
  rw [aligned.position, Nat.add_assoc, aligned.take_input, <- String.length_toList,
    List.drop_length_add_append]

theorem skipBlanks (aligned : Aligned front scanner scanner') :
    Aligned front scanner.skipBlanks scanner'.skipBlanks := by
  refine ⟨aligned.input, ?_⟩
  simp only [Scanner.skipBlanks, aligned.rest, aligned.position, Nat.add_assoc]

/-- The token at both scanners, or the fault, and the scanners behind it. -/
theorem scanToken (aligned : Aligned front scanner scanner') :
    scanner'.scanToken =
      (match scanner.scanToken.1 with
        | .ok token => .ok (token.moved front.length)
        | .error fault => .error (fault.behind front),
      { scanner' with position := front.length + scanner.scanToken.2.position }) := by
  unfold Scanner.scanToken
  rw [aligned.rest]
  cases scanner.rest with
  | nil =>
      simp only [Token.moved, Token.ending, <- aligned.position]
  | cons c behind =>
      simp only
      split
      next mark found =>
        simp only [aligned.position, Token.moved, Nat.add_assoc]
      next =>
        split
        next =>
          split
          next text length ended =>
            simp only [aligned.position, Token.moved, Nat.add_assoc]
          next bad length ended =>
            have stopped := aligned.moveTo (scanner.position + 1 + length)
            have fault := stopped.faultFrom (.invalidEscape bad) scanner.position
            simp only [Nat.add_assoc] at fault ⊢
            simp only [aligned.position, fault, Nat.add_assoc]
          next length ended =>
            have stopped := aligned.moveTo (scanner.position + 1 + length)
            have fault := stopped.faultFrom .unterminatedText scanner.position
            simp only [Nat.add_assoc] at fault ⊢
            simp only [aligned.position, fault, Nat.add_assoc]
        next =>
          split
          next =>
            simp only [aligned.position, Token.moved, Nat.add_assoc]
          next =>
            have fault := aligned.faultFrom (.unexpectedChar c) scanner.position
            simp only [<- aligned.position] at fault ⊢
            rw [fault]

end Aligned

/-! ## Scanners that go on behind a front -/

/-- The second scanner goes on in the same text behind a front.  It may have handed
out tokens when the first has not, as long as the text has a token to come. -/
structure Behind (front : String) (scanner scanner' : Scanner) : Prop where
  aligned : Aligned front scanner scanner'
  pushed : scanner'.pushed = scanner.pushed.map (Token.moved front.length)
  started : scanner'.sawToken = scanner.sawToken ∨
    scanner'.sawToken = true ∧ scanner.pushed = none ∧ scanner.skipBlanks.rest ≠ []

/-- What two texts have in common one of which stands behind a front. -/
def behindLikeness (front : String) : Likeness where
  scanners := Behind front
  places := fun position position' => position' = front.length + position
  faults := fun fault fault' => fault' = fault.behind front

/-- Handing out a token makes the difference between the two scanners disappear. -/
theorem meets_handOut {front : String} {between between' : Scanner} (token : Token)
    (aligned : Aligned front between between')
    (started : (between'.sawToken || !token.isEnding) = (between.sawToken || !token.isEnding)) :
    (behindLikeness front).Meets token (token.moved front.length) (between.handOut token)
      (between'.handOut (token.moved front.length)) where
  content := rfl
  place := rfl
  alike := ⟨⟨aligned.input, aligned.position⟩, rfl, Or.inl started⟩
  back := ⟨⟨aligned.input, aligned.position⟩, rfl, Or.inl started⟩
  blank := fun _ => congrArg not started

/-- After a token the scanners have both handed one out, or both have not. -/
theorem Behind.started_of_scanToken {front : String} {scanner scanner' after : Scanner}
    {token : Token} (behind : Behind front scanner scanner')
    (scanned : scanner.skipBlanks.scanToken = (.ok token, after)) :
    (scanner'.sawToken || !token.isEnding) = (after.sawToken || !token.isEnding) := by
  have saw := scanToken_sawToken scanner.skipBlanks
  rw [scanned] at saw
  rcases behind.started with same | ⟨_, _, ahead⟩
  · rw [same, show after.sawToken = scanner.sawToken from saw]
  · -- The text has a token to come, so this one is not its end.
    rcases before_of_scanToken scanned with ⟨none, _⟩ | front
    · exact absurd none ahead
    · rw [front.regular.isEnding, Bool.not_false, Bool.or_true, Bool.or_true]

theorem next_behind {front : String} {scanner scanner' : Scanner}
    (behind : Behind front scanner scanner') :
    (behindLikeness front).NextAgrees scanner scanner' := by
  cases pushed : scanner.pushed with
  | some token =>
      have pushed' : scanner'.pushed = some (token.moved front.length) := by
        rw [behind.pushed, pushed]
        rfl
      have started : scanner'.sawToken = scanner.sawToken := by
        rcases behind.started with same | ⟨_, free, _⟩
        · exact same
        · rw [pushed] at free
          cases free
      exact .token (next_of_pushed pushed) (next_of_pushed pushed')
        (meets_handOut token behind.aligned (by rw [started]))
  | none =>
      have pushed' : scanner'.pushed = none := by
        rw [behind.pushed, pushed]
        rfl
      have scanned' := behind.aligned.skipBlanks.scanToken
      rcases scanned : scanner.skipBlanks.scanToken with ⟨result, after⟩
      rw [scanned] at scanned'
      have reached : Aligned front after
          { scanner'.skipBlanks with position := front.length + after.position } := by
        have input := scanToken_input scanner.skipBlanks
        rw [scanned] at input
        refine ⟨?_, rfl⟩
        rw [show after.input = scanner.input from input]
        exact behind.aligned.input
      cases result with
      | error fault =>
          exact .fault (next_of_scanToken_error pushed scanned)
            (next_of_scanToken_error pushed' scanned') rfl
      | ok token =>
          exact .token (next_of_scanToken pushed scanned) (next_of_scanToken pushed' scanned')
            (meets_handOut token reached (behind.started_of_scanToken scanned))

/-- Reading a text by itself and behind a front. -/
def behindPairing (front : String) : Pairing where
  toLikeness := behindLikeness front
  step := next_behind
  faultAt := by
    intro scanner scanner' cause token token' behind _ text place
    have position : token'.position = front.length + token.position := place
    change Parser.faultAt scanner' cause token' =
      (Parser.faultAt scanner cause token).behind front
    simp only [Parser.faultAt, Fault.behind, text, position, behind.aligned.consumed]

end Scanner
end CorpusQuery
