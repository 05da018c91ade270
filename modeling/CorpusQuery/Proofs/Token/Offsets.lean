import CorpusQuery.Proofs.Token.Cursor

namespace CorpusQuery

/-!
# Offsets of tokens and faults

The tokens of a text stand at increasing offsets, so that an offset belongs to one
token at most.  What a scanner has passed is the beginning of the tokens found by
scanning alone, and of the text as well: it is a layout of these tokens.

A fault of the scanner is found at a token, too, which starts where the text before
the fault ends.  There are no blanks at this place, only behind the token before it.
-/

namespace Scanner

/-! ## Increasing offsets -/

/-- The tokens of a text that start at an offset. -/
def tokensAt (text : String) (offset : Nat) : List Token :=
  ((tokens text).filterMap Except.toOption).filter fun token => token.position = offset

/-- A token stands at or behind the scanner, and the scanner moves behind it. -/
theorem position_of_scan {scanner after : Scanner} {token : Token}
    (scanned : scanner.scan = (.ok token, after)) :
    scanner.position ≤ token.position ∧
      (token.isEnding = false -> token.position < after.position) := by
  have skipped : scanner.position ≤ scanner.skipBlanks.position := Nat.le_add_right _ _
  rcases before_of_scanToken scanned with ⟨_, rfl, _⟩ | front
  · refine ⟨skipped, fun impossible => ?_⟩
    cases impossible
  · have positive := List.length_pos_iff.mpr front.regular.raw_ne_nil
    rw [front.starts, front.moved]
    exact ⟨skipped, fun _ => Nat.lt_add_of_pos_right positive⟩

theorem scanAll_increasing (bound : Nat) (scanner : Scanner) :
    (forall token, token ∈ (scanAll bound scanner).filterMap Except.toOption ->
      scanner.position ≤ token.position) ∧
    ((scanAll bound scanner).filterMap Except.toOption).Pairwise fun one other =>
      one.position < other.position := by
  induction bound generalizing scanner with
  | zero => exact ⟨fun token impossible => absurd impossible List.not_mem_nil, List.Pairwise.nil⟩
  | succ bound ih =>
      unfold scanAll
      rcases scanned : scanner.scan with ⟨result, after⟩
      cases result with
      | error fault =>
          exact ⟨fun token impossible => absurd impossible List.not_mem_nil, List.Pairwise.nil⟩
      | ok token =>
          rcases position_of_scan scanned with ⟨here, passed⟩
          by_cases atEnd : token.isEnding = true
          · simp only [atEnd, if_true]
            refine ⟨?_, List.pairwise_singleton _ token⟩
            intro other among
            rw [List.mem_singleton.mp among]
            exact here
          · rcases ih after with ⟨behind, increasing⟩
            have further := passed (Bool.eq_false_iff.mpr atEnd)
            simp only [atEnd]
            refine ⟨List.forall_mem_cons.mpr ⟨here, ?_⟩, List.pairwise_cons.mpr ⟨?_, increasing⟩⟩
            · intro other among
              exact Nat.le_of_lt (Nat.lt_of_le_of_lt here (Nat.lt_of_lt_of_le further
                (behind other among)))
            · intro other among
              exact Nat.lt_of_lt_of_le further (behind other among)

/-- An offset belongs to one token at most. -/
theorem tokensAt_eq {text : String} {passed : List Token} {token : Token}
    {rest : List (Except Fault Token)}
    (listed : tokens text = passed.map .ok ++ .ok token :: rest) :
    tokensAt text token.position = [token] := by
  have shown : (tokens text).filterMap Except.toOption =
      passed ++ token :: rest.filterMap Except.toOption := by
    rw [listed, List.filterMap_append, List.filterMap_map]
    exact congrArg (· ++ _) List.filterMap_some
  have increasing := (scanAll_increasing (text.length + 1) (ofText text)).2
  rw [<- plainTokens, <- tokens_eq, shown] at increasing
  rcases List.pairwise_append.mp increasing with ⟨_, later, before⟩
  have none : passed.filter (fun other => other.position = token.position) = [] := by
    apply List.filter_eq_nil_iff.mpr
    intro other among same
    have earlier := before other among token List.mem_cons_self
    rw [of_decide_eq_true same] at earlier
    exact absurd earlier (Nat.lt_irrefl _)
  have none' : (rest.filterMap Except.toOption).filter
      (fun other => other.position = token.position) = [] := by
    apply List.filter_eq_nil_iff.mpr
    intro other among same
    have behind := (List.pairwise_cons.mp later).1 other among
    rw [of_decide_eq_true same] at behind
    exact absurd behind (Nat.lt_irrefl _)
  unfold tokensAt
  rw [shown, List.filter_append, none, List.filter_cons, if_pos (decide_eq_true rfl), none']
  rfl

/-! ## Tokens that were passed -/

/-- A scanner gets to another one through tokens inside the text. -/
structure Reaches (scanner : Scanner) (passed : List Token) (last : Scanner) : Prop where
  steps : Steps scanner passed last
  inside : forall token, token ∈ passed -> token.isEnding = false

namespace Reaches

variable {scanner between last : Scanner} {passed tokens : List Token}

theorem append (reaches : Reaches scanner passed between) (steps : Steps between tokens last)
    (inside : forall token, token ∈ tokens -> token.isEnding = false) :
    Reaches scanner (passed ++ tokens) last := by
  refine ⟨reaches.steps.append steps, fun token among => ?_⟩
  rcases List.mem_append.mp among with front | back
  · exact reaches.inside token front
  · exact inside token back

theorem token (reaches : Reaches scanner passed between) {token : Token}
    (read : between.next = (.ok token, last)) (inside : token.isEnding = false) :
    Reaches scanner (passed ++ [token]) last :=
  reaches.append (.token read (.done rfl)) (by simpa using inside)

end Reaches

/-- The tokens that were passed, and what comes next, are found by scanning alone.
Behind a fault nothing is found. -/
theorem scanAll_of_steps {scanner last : Scanner} {passed : List Token}
    (steps : Steps scanner passed last)
    (inside : forall token, token ∈ passed -> token.isEnding = false) (free : scanner.pushed = none)
    (bound : Nat) (enough : scanner.rest.length < bound) :
    Exists fun rest => scanAll bound scanner = passed.map .ok ++ last.next.1 :: rest ∧
      (forall fault, last.next.1 = .error fault -> rest = []) := by
  induction steps generalizing bound with
  | @done scanner last same =>
      cases bound with
      | zero => cases enough
      | succ bound =>
          rw [<- same, next, free]
          unfold scanAll
          rcases scanned : scanner.scan with ⟨result, after⟩
          cases result with
          | error fault => exact ⟨[], rfl, fun _ _ => rfl⟩
          | ok token =>
              simp only [List.map_nil, List.nil_append]
              refine ⟨if token.isEnding then [] else scanAll bound after, ?_, ?_⟩
              · split <;> rfl
              · intro fault impossible
                cases impossible
  | @token scanner between last token tokens read later ih =>
      have parts := List.forall_mem_cons.mp inside
      rcases next_cases read with ⟨waiting, _⟩ | ⟨_, after, scanned, rfl⟩
      · rw [free] at waiting
        cases waiting
      · cases bound with
        | zero => cases enough
        | succ bound =>
            have progress := scan_progress scanned parts.1
            have place : Abreast after (after.handOut token) := ⟨rfl, rfl⟩
            have shorter : (after.handOut token).rest.length < bound := by
              rw [place.rest]
              omega
            rcases ih parts.2 rfl bound shorter with ⟨rest, listed, stops⟩
            refine ⟨rest, ?_, stops⟩
            rw [scanAll_congr bound place] at listed
            unfold scanAll
            rw [scanned]
            simp only [parts.1, listed]
            rfl

theorem Reaches.listed {text : String} {passed : List Token} {last : Scanner}
    (reaches : Reaches (ofText text) passed last) :
    Exists fun rest => tokens text = passed.map .ok ++ last.next.1 :: rest ∧
      (forall fault, last.next.1 = .error fault -> rest = []) := by
  rw [tokens_eq]
  exact scanAll_of_steps reaches.steps reaches.inside rfl (text.length + 1) (enough_ofText text)

/-! ## Faults of the scanner -/

/-- Reading the token at this offset fails, although one starts there. -/
structure BreaksAt (text : String) (offset : Nat) (fault : Fault) : Prop where
  visible : Exists fun c => Exists fun behind =>
    text.toList.drop offset = c :: behind ∧ Text.isBlank c = false
  fails : (scanToken { ofText text with position := offset }).1 = .error fault

/-- A fault shows the text up to the character where reading has stopped, in two
pieces. -/
theorem faultFrom_pieces {scanner : Scanner} {start : Nat} (cause : Cause)
    (begun : start ≤ scanner.position) :
    (scanner.faultFrom cause start).parsed.toList ++
        (scanner.faultFrom cause start).fragment.toList =
      scanner.input.take (scanner.position + 1) := by
  have pieces := List.take_append_drop start (scanner.input.take (scanner.position + 1))
  rw [List.take_take, Nat.min_eq_left (Nat.le_succ_of_le begun)] at pieces
  rw [faultFrom, consumed, String.toList_ofList, String.toList_ofList]
  exact pieces

/-- A fault in a token shows the text before the token, and from there on up to the
character where reading stopped. -/
theorem scanToken_fault {scanner after : Scanner} {fault : Fault}
    (failed : scanner.scanToken = (.error fault, after)) :
    scanner.rest ≠ [] ∧ fault.parsed = scanner.consumed scanner.position ∧
      fault.parsed.toList ++ fault.fragment.toList = scanner.input.take (fault.position + 1) := by
  rcases raised_of_scanToken failed with ⟨visible, _, shown, count, _, rfl⟩
  have pieces := faultFrom_pieces fault.cause (onward_scanToken scanner).forward
  rw [failed, <- shown] at pieces
  rw [shown] at pieces ⊢
  exact ⟨visible, rfl, pieces⟩

/-- The text before a fault of the scanner holds the tokens that were passed and
ends where the token with the fault starts. -/
theorem Reaches.breaksAt {text : String} {passed : List Token} {last after : Scanner}
    {fault : Fault} (reaches : Reaches (ofText text) passed last)
    (failed : last.next = (.error fault, after)) :
    Token.Spaced 0 passed fault.parsed.toList ∧ BreaksAt text fault.parsed.length fault ∧
      fault.parsed.toList <+: text.toList ∧
        fault.parsed.toList ++ fault.fragment.toList = text.toList.take (fault.position + 1) := by
  rcases reaches.steps.laid rfl reaches.inside with
    ⟨place, front, meets, _, input, position, rest, spaced⟩
  have scanned : place.skipBlanks.scanToken = (.error fault, after) :=
    (scan_of_next_error (meets.trans failed)).2
  rcases scanToken_fault scanned with ⟨starts, parsed, pieces⟩
  -- The token starts behind the blanks that the scanner passes before it reads.
  have blank : (place.rest.takeWhile Text.isBlank).all Text.isBlank = true := List.all_takeWhile
  have skipped := rest_skipBlanks place
  have offset : place.skipBlanks.position =
      (front ++ place.rest.takeWhile Text.isBlank).length := by
    rw [List.length_append, <- Nat.zero_add front.length]
    exact congrArg (· + _) position
  have whole : text.toList =
      (front ++ place.rest.takeWhile Text.isBlank) ++ place.skipBlanks.rest := by
    rw [List.append_assoc, skipped, List.takeWhile_append_dropWhile]
    exact rest
  have kept : place.skipBlanks.input = text.toList := input
  have before : fault.parsed.toList = front ++ place.rest.takeWhile Text.isBlank := by
    rw [parsed, consumed, String.toList_ofList, kept, offset, whole, List.take_left]
  have size : fault.parsed.length = place.skipBlanks.position := by
    rw [<- String.length_toList, before, offset]
  refine ⟨?_, ⟨?_, ?_⟩, ?_, ?_⟩
  · have laid := spaced.append (endsWord_of_blank blank) (.blank blank)
    rw [List.append_nil, <- before] at laid
    exact laid
  · rw [size, offset, whole, List.drop_left]
    cases shown : place.skipBlanks.rest with
    | nil => exact absurd shown starts
    | cons c behind =>
        refine ⟨c, behind, rfl, ?_⟩
        rw [skipped] at shown
        have visible := List.head?_dropWhile_not Text.isBlank place.rest
        rw [shown] at visible
        exact visible
  · have same : Abreast place.skipBlanks { ofText text with position := fault.parsed.length } :=
      ⟨kept.symm, size⟩
    rw [same.scanToken.1, scanned]
  · rw [before, whole]
    exact List.prefix_append _ _
  · rw [pieces, kept]

end Scanner
end CorpusQuery
