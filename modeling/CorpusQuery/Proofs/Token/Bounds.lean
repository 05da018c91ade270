import CorpusQuery.Proofs.Token.Offsets

namespace CorpusQuery

/-!
# Scanners stay inside their text

A scanner goes on after a fault, from the character where reading stopped.  That
may be the middle of a quoted text whose quotes then match up differently, so a
scanner that has met faults is in states that no text without faults leads to.

All of them are inside the text all the same.  Whatever is asked of a scanner, it
reads on, and not beyond the end of the text (`Onward`).  The offsets of a fault
are therefore in order, and the characters it shows are those of the text.  Since
a token takes at least one character, a scanner that is asked again and again
comes to the end of the text or to a fault.
-/

/-- What can be asked of a scanner.  Besides the calls that a cursor answers, this
is the text before an offset. -/
inductive Request where
  | call (call : Call)
  | consumed (offset : Nat)

/-- Whether asking for a token has found the end of the text or a fault instead. -/
def isHalt : Except Fault Token -> Bool
  | .ok token => token.isEnding
  | .error _ => true

/-- A fault shows the text in two pieces, one up to an offset and one from there to
another offset.  No offset has to be moved to have the pieces inside the text. -/
structure Fault.Cuts (fault : Fault) (text : List Char) (start stop : Nat) : Prop where
  ordered : min start stop = start
  inside : stop ≤ text.length
  pieces : text = fault.parsed.toList ++ fault.fragment.toList ++ text.drop stop
  parsed : fault.parsed.length = start
  fragment : fault.fragment.length = stop - start

namespace Scanner

/-! ## Requests -/

/-- The scanner after a request, which a fault does not end. -/
def perform (scanner : Scanner) : Request -> Scanner
  | .call call => (scanner.answer call).2
  | .consumed _ => scanner

/-- The scanner after requests made one after another. -/
def performAll (scanner : Scanner) (requests : List Request) : Scanner :=
  requests.foldl perform scanner

theorem onward_pushBack (scanner : Scanner) : Onward scanner scanner.pushBack := by
  unfold pushBack
  cases scanner.pushed with
  | some token => exact .refl scanner
  | none => exact ⟨rfl, Nat.le_refl _, id⟩

theorem onward_perform (scanner : Scanner) (request : Request) :
    Onward scanner (scanner.perform request) := by
  cases request with
  | consumed offset => exact .refl scanner
  | call call =>
      cases call with
      | next => exact onward_next scanner
      | pushBack => exact onward_pushBack scanner
      | isBlank => exact .refl scanner

theorem onward_performAll (scanner : Scanner) (requests : List Request) :
    Onward scanner (scanner.performAll requests) := by
  induction requests generalizing scanner with
  | nil => exact .refl scanner
  | cons request requests ih =>
      exact (onward_perform scanner request).trans (ih (scanner.perform request))

/-! ## Faults -/

/-- The offset behind the character where a scanner has stopped, or the end of the
text if there is no character. -/
def stop (scanner : Scanner) : Nat :=
  min (scanner.position + 1) scanner.input.length

/-- A fault in a token cuts the text at the start of the token and where reading
has stopped. -/
theorem faultFrom_cuts {scanner : Scanner} {start : Nat} (cause : Cause)
    (begun : start ≤ scanner.position) (inside : scanner.position ≤ scanner.input.length) :
    (scanner.faultFrom cause start).Cuts scanner.input start scanner.stop := by
  have ordered : start ≤ scanner.stop := by
    apply Nat.le_min.mpr
    exact ⟨Nat.le_succ_of_le begun, Nat.le_trans begun inside⟩
  have bounded : scanner.stop ≤ scanner.input.length := Nat.min_le_right _ _
  have upTo : scanner.input.take (scanner.position + 1) = scanner.input.take scanner.stop := by
    rw [stop, <- List.take_take, List.take_length]
  have pieces := faultFrom_pieces cause begun
  have parsed : (scanner.faultFrom cause start).parsed.length = start := by
    rw [<- String.length_toList, faultFrom, consumed, String.toList_ofList, List.length_take]
    exact Nat.min_eq_left (Nat.le_trans ordered bounded)
  rw [upTo] at pieces
  refine ⟨Nat.min_eq_left ordered, bounded, ?_, parsed, ?_⟩
  · rw [pieces, List.take_append_drop]
  · have sizes := congrArg List.length pieces
    rw [List.length_append, List.length_take, Nat.min_eq_left bounded, String.length_toList,
      String.length_toList, parsed] at sizes
    omega

/-! ## The way to the end -/

theorem performAll_next (scanner : Scanner) (count : Nat) :
    scanner.performAll (List.replicate (count + 1) (.call .next)) =
      scanner.next.2.performAll (List.replicate count (.call .next)) :=
  rfl

/-- A scanner that has no token to hand out again comes to a halt when it is asked as
often as there are characters left, and once more. -/
theorem exists_halt_of_free (bound : Nat) {scanner : Scanner} (free : scanner.pushed = none)
    (enough : scanner.rest.length < bound) :
    Exists fun count => count < bound ∧
      isHalt (scanner.performAll (List.replicate count (.call .next))).next.1 = true := by
  induction bound generalizing scanner with
  | zero => cases enough
  | succ bound ih =>
      by_cases halts : isHalt scanner.next.1 = true
      · exact ⟨0, Nat.succ_pos bound, halts⟩
      · rcases read : scanner.next with ⟨result, after⟩
        rw [read] at halts
        cases result with
        | error fault => exact absurd rfl halts
        | ok token =>
            have inside : token.isEnding = false := Bool.eq_false_iff.mpr halts
            rcases next_cases read with ⟨waiting, _⟩ | ⟨_, between, scanned, rfl⟩
            · rw [free] at waiting
              cases waiting
            · have progress := scan_progress scanned inside
              have shorter : (between.handOut token).rest.length < bound :=
                Nat.lt_of_lt_of_le progress (Nat.le_of_lt_succ enough)
              rcases ih rfl shorter with ⟨count, below, reached⟩
              refine ⟨count + 1, Nat.succ_lt_succ below, ?_⟩
              rw [performAll_next, read]
              exact reached

/-- A token that was taken back is one more to ask for. -/
theorem exists_halt (scanner : Scanner) :
    Exists fun count => count < scanner.rest.length + 2 ∧
      isHalt (scanner.performAll (List.replicate count (.call .next))).next.1 = true := by
  cases pushed : scanner.pushed with
  | none =>
      rcases exists_halt_of_free _ pushed (Nat.lt_succ_self _) with ⟨count, below, reached⟩
      exact ⟨count, Nat.lt_succ_of_lt below, reached⟩
  | some token =>
      have later := @exists_halt_of_free _ (scanner.handOut token) rfl (Nat.lt_succ_self _)
      rcases later with ⟨count, below, reached⟩
      refine ⟨count + 1, Nat.succ_lt_succ below, ?_⟩
      rw [performAll_next, next_of_pushed pushed]
      exact reached

/-- Whatever has been asked of a scanner, and whatever faults it has met, it is inside
its text and will only read on.  A fault in front of it starts where the scanner has
passed the blanks, cuts the text in order and is not beyond its end, and a token takes
at least one character.  Hence the scanner comes to a halt when it is asked as often
as there are characters in the text, and twice more. -/
theorem performAll_inside (text : String) (requests : List Request) :
    let scanner := (ofText text).performAll requests
    (scanner.input = text.toList ∧ scanner.position ≤ text.length) ∧
      (forall more, scanner.position ≤ (scanner.performAll more).position) ∧
      (forall fault after, scanner.scan = (.error fault, after) ->
        fault = after.faultFrom fault.cause scanner.skipBlanks.position ∧
          scanner.skipBlanks.position ≤ after.position ∧ after.position ≤ text.length ∧
          fault.Cuts text.toList scanner.skipBlanks.position after.stop) ∧
      (forall token after, scanner.scan = (.ok token, after) -> token.isEnding = false ->
        scanner.position < after.position) ∧
      Exists fun count => count < text.length + 2 ∧
        isHalt (scanner.performAll (List.replicate count (.call .next))).next.1 = true := by
  intro scanner
  have onward : Onward (ofText text) scanner := onward_performAll (ofText text) requests
  have input : scanner.input = text.toList := onward.input
  have inside : scanner.position ≤ scanner.input.length := by
    rw [onward.input]
    exact onward.inside (Nat.zero_le _)
  have size : scanner.input.length = text.length := by rw [input, String.length_toList]
  refine ⟨⟨input, size ▸ inside⟩, fun more => (onward_performAll scanner more).forward, ?_, ?_, ?_⟩
  · intro fault after scanned
    have begun := onward_scanToken scanner.skipBlanks
    have whole := onward_scan scanner
    have shown := (raised_of_scanToken scanned).shown
    rw [<- scan, scanned] at begun
    rw [scanned] at whole
    have ends : after.position ≤ after.input.length := by
      rw [whole.input]
      exact whole.inside inside
    have cuts := faultFrom_cuts fault.cause begun.forward ends
    rw [<- shown, whole.input, input] at cuts
    rw [whole.input, size] at ends
    exact ⟨shown, begun.forward, ends, cuts⟩
  · intro token after scanned other
    rcases position_of_scan scanned with ⟨here, passed⟩
    exact Nat.lt_of_le_of_lt here (passed other)
  · rcases exists_halt scanner with ⟨count, below, reached⟩
    refine ⟨count, Nat.lt_of_lt_of_le below ?_, reached⟩
    rw [<- size, rest, List.length_drop]
    exact Nat.add_le_add_right (Nat.sub_le _ _) 2

/-- A bad escape leaves a scanner inside a quoted text.  It goes on with a bare word,
and takes the closing quote for an opening one, which has no end. -/
theorem performAll_inside_of_escape :
    let text := "\"a\\xb\" c"
    let scanner := (ofText text).performAll [.call .next, .call .next]
    scanner.last = some ⟨.word, "xb", 3⟩ ∧
      Exists fun fault => Exists fun after => scanner.scan = (.error fault, after) ∧
        fault.Cuts text.toList 5 8 ∧
          fault.parsed.toList ++ fault.fragment.toList = text.toList := by
  intro text scanner
  refine ⟨by decide +kernel, ?_⟩
  have failed : scanner.scan.1.toOption = none := by decide +kernel
  have starts : scanner.skipBlanks.position = 5 := by decide +kernel
  have stops : scanner.scan.2.stop = 8 := by decide +kernel
  rcases performAll_inside text [.call .next, .call .next] with ⟨_, _, faults, _, _⟩
  rcases scanned : scanner.scan with ⟨result, after⟩
  rw [scanned] at failed stops
  cases result with
  | ok token => cases failed
  | error fault =>
      rcases faults fault after scanned with ⟨_, _, _, cuts⟩
      change fault.Cuts text.toList scanner.skipBlanks.position after.stop at cuts
      change after.stop = 8 at stops
      rw [starts, stops] at cuts
      refine ⟨fault, after, rfl, cuts, ?_⟩
      have pieces := cuts.pieces
      have spent : text.toList.drop 8 = [] := by decide +kernel
      rw [spent, List.append_nil] at pieces
      exact pieces.symm

end Scanner
end CorpusQuery
