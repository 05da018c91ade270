import CorpusQuery.Pattern.Standard
import CorpusQuery.Proofs.Query.Agreement
import CorpusQuery.Proofs.Token.Offsets

namespace CorpusQuery

/-!
# What a fault points at

A fault shows a piece of the text, the text before it and an offset.  Readers do
not look for this piece: they take it from the token at hand, or the scanner has
met the fault already.  So every reader is followed from the start of the text on,
with the tokens passed so far (`Traces`).  It fails because the scanner fails, or
at the next token, whose text it shows.

There is one exception.  Where a parenthesis is closed right behind the opening
one, the empty text between them is shown.  The tokens passed tell this case from
the others, since nothing that has been read as a whole ends with an opening
parenthesis.
-/

namespace Parser

open ParseM

/-! ## The text that is shown -/

/-- What a fault at a token shows of it, behind the tokens that were passed. -/
def shown (passed : List Token) (token : Token) : String :=
  if passed.getLast?.any (fun last => last.isMark .openParen) && token.isMark .closeParen then ""
  else token.text

/-- The tokens do not end with an opening parenthesis. -/
def Unopened (tokens : List Token) : Prop :=
  forall last, tokens.getLast? = some last -> last.kind ≠ .mark .openParen

theorem unopened_nil : Unopened [] := by
  intro last impossible
  cases impossible

theorem Unopened.behind {tokens : List Token} (unopened : Unopened tokens) (nonempty : tokens ≠ [])
    (others : List Token) : Unopened (others ++ tokens) := by
  intro last ends
  rw [List.getLast?_append_of_ne_nil others nonempty] at ends
  exact unopened last ends

theorem unopened_concat {token : Token} (other : token.kind ≠ .mark .openParen)
    (others : List Token) : Unopened (others ++ [token]) := by
  intro last ends
  rw [List.getLast?_concat] at ends
  cases ends
  exact other

theorem shown_of_unopened {passed : List Token} (unopened : Unopened passed) (token : Token) :
    shown passed token = token.text := by
  unfold shown
  cases ends : passed.getLast? with
  | none => rfl
  | some last =>
      have other : last.isMark .openParen = false := by
        rw [Bool.eq_false_iff]
        exact fun opened => unopened last ends (isMark_iff.mp opened)
      simp only [Option.any_some, other, Bool.false_and]
      rfl

theorem shown_of_other (passed : List Token) {token : Token}
    (other : ¬ token.isMark .closeParen = true) : shown passed token = token.text := by
  unfold shown
  rw [Bool.eq_false_iff.mpr other, Bool.and_false]
  rfl

theorem shown_empty {opening token : Token} (opened : opening.kind = .mark .openParen)
    (closed : token.isMark .closeParen = true) (passed : List Token) :
    shown (passed ++ [opening]) token = "" := by
  unfold shown
  rw [List.getLast?_concat, Option.any_some, isMark_iff.mpr opened, closed]
  rfl

/-! ## Faults and where they are found -/

/-- The scanner meets the fault, or a reader finds it at the next token, behind
tokens that were passed before. -/
inductive Located (start : Scanner) (fault : Fault) : Prop
  | unread {passed : List Token} {last after : Scanner} (reaches : start.Reaches passed last)
      (failed : last.next = (.error fault, after))
  | blamed {passed : List Token} {token : Token} {last after : Scanner}
      (reaches : start.Reaches passed last) (read : last.next = (.ok token, after))
      (stage : fault.cause.stage ≠ .lexical) (position : fault.position = token.position)
      (parsed : fault.parsed = start.consumed token.position)
      (fragment : fault.fragment = shown passed token)

section Faults

variable {α : Type} {start scanner between after : Scanner} {passed : List Token} {fault : Fault}

theorem next_kept {token : Token} (read : scanner.next = (.ok token, between)) :
    between.input = scanner.input := by
  have kept := Scanner.next_input scanner
  rw [read] at kept
  exact kept

/-- A reader that looks at the next token fails with the scanner or behind the
token. -/
theorem located_or_next {further : Token -> ParseM α} (reaches : start.Reaches passed scanner)
    (failed : ParseM.runOn (next >>= further) scanner = (.error fault, after)) :
    Located start fault ∨ Exists fun token => Exists fun between =>
      scanner.next = (.ok token, between) ∧
        (further token).runOn between = (.error fault, after) := by
  rcases bind_eq_error failed with here | ⟨token, between, read, later⟩
  · rw [runOn_next] at here
    exact Or.inl (.unread reaches here)
  · rw [runOn_next] at read
    exact Or.inr ⟨token, between, read, later⟩

/-- A fault at the next token, or at a token put in its place. -/
theorem located_at {token place : Token} {cause : Cause} (reaches : start.Reaches passed scanner)
    (read : scanner.next = (.ok token, between)) (stage : cause.stage ≠ .lexical)
    (input : after.input = scanner.input) (position : place.position = token.position)
    (text : place.text = shown passed token) : Located start (faultAt after cause place) := by
  refine .blamed reaches read stage position ?_ text
  rw [faultAt, Scanner.consumed, Scanner.consumed, input, reaches.steps.input, position]

theorem buildTerm_located [Pattern.Engine] {attr : Attribute} {negated : Bool} {token place : Token}
    {behind : Scanner} (reaches : start.Reaches passed scanner)
    (read : scanner.next = (.ok token, between)) (input : behind.input = scanner.input)
    (failed : (buildTerm attr negated place).runOn behind = (.error fault, after))
    (position : place.position = token.position) (text : place.text = shown passed token) :
    Located start fault := by
  rcases buildTerm_eq_error failed with ⟨cause, rfl, semantic⟩
  have stage : cause.stage ≠ .lexical := by
    rw [semantic]
    decide
  exact located_at reaches read stage input position text

end Faults

/-! ## Terms -/

section Terms

variable [Pattern.Engine] {start scanner after : Scanner} {passed : List Token} {fault : Fault}

theorem payload_located {attr : Attribute} {negated : Bool} {opening : Token}
    (reaches : start.Reaches (passed ++ [opening]) scanner)
    (opened : opening.kind = .mark .openParen)
    (failed : (payload attr negated).runOn scanner = (.error fault, after)) :
    Located start fault := by
  unfold payload at failed
  rcases located_or_next reaches failed with found | ⟨token, between, read, rest⟩
  · exact found
  have kept := next_kept read
  by_cases closed : token.isMark .closeParen = true
  · rw [if_pos closed] at rest
    exact buildTerm_located reaches read kept rest rfl (shown_empty opened closed passed).symm
  · rw [if_neg closed] at rest
    have text := (shown_of_other (passed ++ [opening]) closed).symm
    by_cases carries : token.isText = true
    · rw [if_pos carries] at rest
      rcases bind_eq_error rest with build | ⟨term, same, build, closing⟩
      · exact buildTerm_located reaches read kept build rfl text
      · rcases buildTerm_eq_ok.mp build with ⟨_, rfl⟩
        have reaches' := reaches.token read (isEnding_of_isText carries)
        rcases located_or_next reaches' closing with found | ⟨close, behind, read', done⟩
        · exact found
        have kept' := next_kept read'
        have other : token.kind ≠ .mark .openParen := by
          intro opens
          rw [Token.isText, opens] at carries
          cases carries
        have text' := (shown_of_unopened (unopened_concat other (passed ++ [opening])) close).symm
        split at done
        · cases done
        · split at done
          · cases done
            exact located_at reaches' read' (by decide) kept' rfl text'
          · cases done
            exact located_at reaches' read' (by decide) kept' rfl text'
    · rw [if_neg carries] at rest
      split at rest
      · cases rest
        exact located_at reaches read (by decide) kept rfl text
      · cases rest
        exact located_at reaches read (by decide) kept rfl text

/-- A term from its name on, the name being the next token where it is looked for. -/
theorem termFrom_located {negated : Bool} {name : Token} {origin : Scanner}
    (reaches : start.Reaches passed origin) (unopened : Unopened passed)
    (read : origin.next = (.ok name, scanner))
    (failed : (termFrom negated name).runOn scanner = (.error fault, after)) :
    Located start fault := by
  have kept := next_kept read
  have text := (shown_of_unopened unopened name).symm
  unfold termFrom at failed
  split at failed
  next isWord =>
    have reaches' := reaches.token read (isEnding_of_word isWord)
    rcases located_or_next reaches' failed with found | ⟨behind, between, read', rest⟩
    · exact found
    have kept' : between.input = origin.input := (next_kept read').trans kept
    by_cases opened : behind.isMark .openParen = true
    · rw [if_pos opened] at rest
      have opening := isMark_iff.mp opened
      split at rest
      next attr found =>
        exact payload_located (reaches'.token read' (isEnding_of_mark opening)) opening rest
      next =>
        cases rest
        exact located_at reaches read (by decide) kept' rfl text
    · rw [if_neg opened] at rest
      simp only [runOn_bind, runOn_pushBack] at rest
      have back : between.pushBack.input = between.input := by
        unfold Scanner.pushBack
        split <;> rfl
      exact buildTerm_located reaches read (back.trans kept') rest rfl text
  next =>
    rw [runOn_bind, runOn_get] at failed
    simp only at failed
    split at failed
    · cases failed
      exact located_at reaches read (by decide) kept rfl text
    · cases failed
      exact located_at reaches read (by decide) kept rfl text
  next =>
    cases failed
    exact located_at reaches read (by decide) kept rfl text

end Terms

/-! ## Levels -/

section Levels

variable {α β : Type} {separator : Mark} {member : ParseM α} {derives : List Token -> α -> Prop}
  {add : β -> α -> β}

/-- The faults of a reader are located, whatever has been passed before it. -/
def Traces (reader : ParseM α) : Prop :=
  forall ⦃start scanner after : Scanner⦄ ⦃passed : List Token⦄ ⦃fault : Fault⦄,
    start.Reaches passed scanner -> Unopened passed ->
      reader.runOn scanner = (.error fault, after) -> Located start fault

/-- Nothing that is derived ends with an opening parenthesis. -/
def Closes (derives : List Token -> α -> Prop) : Prop :=
  forall ⦃tokens : List Token⦄ ⦃item : α⦄, derives tokens item -> Unopened tokens

theorem membersAfter_traces (sound : Sound member derives) (inside : Inside derives)
    (closes : Closes derives) (traces : Traces member) (apart : separator ≠ .openParen)
    (bound : Nat) (whole : β) : Traces (membersAfter separator member add bound whole) := by
  intro start scanner after passed fault reaches unopened failed
  induction bound generalizing scanner passed whole with
  | zero => cases failed
  | succ bound ih =>
      unfold membersAfter at failed
      rcases located_or_next reaches failed with found | ⟨mark, between, read, rest⟩
      · exact found
      by_cases marked : mark.isMark separator = true
      · rw [if_pos marked] at rest
        have separates := isMark_iff.mp marked
        have reaches' := reaches.token read (isEnding_of_mark separates)
        rcases bind_eq_error rest with here | ⟨item, behind, one, loop⟩
        · apply traces reaches' _ here
          apply unopened_concat
          rw [separates]
          exact fun same => apart (TokenKind.mark.inj same)
        · rcases sound one with ⟨tokens, steps, derived⟩
          have within := inside derived
          exact ih (add whole item) (reaches'.append steps within.2)
            ((closes derived).behind within.1 (passed ++ [mark])) loop
      · rw [if_neg marked] at rest
        simp only [runOn_bind, runOn_pushBack, runOn_pure] at rest
        cases rest

theorem level_traces {start : α -> β} (sound : Sound member derives) (inside : Inside derives)
    (closes : Closes derives) (traces : Traces member) (apart : separator ≠ .openParen) :
    Traces (level separator member start add) := by
  intro origin scanner after passed fault reaches unopened failed
  unfold level at failed
  rcases bind_eq_error failed with here | ⟨first, between, one, rest⟩
  · exact traces reaches unopened here
  · rw [runOn_bind, runOn_get] at rest
    rcases sound one with ⟨tokens, steps, derived⟩
    have within := inside derived
    exact membersAfter_traces sound inside closes traces apart _ _
      (reaches.append steps within.2) ((closes derived).behind within.1 passed) rest

theorem separated_closes (inside : Inside derives) (closes : Closes derives) :
    Closes (Grammar.Separated separator derives) := by
  have further : forall {rest items}, Grammar.Further separator derives rest items ->
      forall front, Unopened front -> Unopened (front ++ rest) := by
    intro rest items later
    induction later with
    | none =>
        intro front unopened
        rw [List.append_nil]
        exact unopened
    | @more mark tokens rest item items separates first later ih =>
        intro front _
        have member := (closes first).behind (inside first).1 (front ++ [mark])
        have whole := ih _ member
        rwa [List.append_assoc, List.append_assoc] at whole
  intro tokens items separated
  cases separated with
  | intro first later => exact further later _ (closes first)

theorem Closes.node {κ : Type} {shown : β -> κ} {kept : α -> κ} (closes : Closes derives) :
    Closes fun tokens node => Exists fun item => derives tokens item ∧ shown node = kept item := by
  rintro tokens node ⟨item, derived, _⟩
  exact closes derived

end Levels

variable [Pattern.Engine]

theorem term_traces : Traces term := by
  intro start scanner after passed fault reaches unopened failed
  unfold term at failed
  rcases located_or_next reaches failed with found | ⟨token, between, read, rest⟩
  · exact found
  by_cases marked : token.isMark .bang = true
  · rw [if_pos marked] at rest
    have bang := isMark_iff.mp marked
    have reaches' := reaches.token read (isEnding_of_mark bang)
    have unopened' : Unopened (passed ++ [token]) := by
      apply unopened_concat
      rw [bang]
      decide
    rcases located_or_next reaches' rest with found | ⟨name, behind, read', rest'⟩
    · exact found
    · exact termFrom_located reaches' unopened' read' rest'
  · rw [if_neg marked] at rest
    exact termFrom_located reaches unopened read rest

theorem payload_closes (attr : Attribute) (negated : Bool) :
    Closes (Grammar.Payload attr negated) := by
  have bracket : forall {closing : Token}, closing.kind = .mark .closeParen ->
      closing.kind ≠ .mark .openParen := by
    intro closing closed opened
    rw [closed] at opened
    cases opened
  intro tokens term derived
  cases derived with
  | empty closed valid => exact unopened_concat (bracket closed) []
  | @text text closing term carries valid closed => exact unopened_concat (bracket closed) [text]

theorem plain_closes (negated : Bool) : Closes (Grammar.Plain negated) := by
  intro tokens term derived
  cases derived with
  | @named name opening attr payload term isWord spelled opened inside =>
      have nonempty : payload ≠ [] := by
        cases inside <;> exact List.cons_ne_nil _ _
      exact (payload_closes attr negated inside).behind nonempty [name, opening]
  | bare isWord valid =>
      apply unopened_concat _ []
      rw [isWord]
      decide

theorem oneTerm_closes : Closes Grammar.OneTerm := by
  intro tokens term derived
  cases derived with
  | plain body => exact plain_closes false body
  | @negated bang tokens term marked body =>
      have nonempty : tokens ≠ [] := by
        cases body <;> exact List.cons_ne_nil _ _
      exact (plain_closes true body).behind nonempty [bang]

theorem setNode_closes : Closes Grammar.SetNode :=
  (separated_closes oneTerm_inside oneTerm_closes).node

theorem wordNode_closes : Closes Grammar.WordNode :=
  (separated_closes (separated_inside oneTerm_inside)
    (separated_closes oneTerm_inside oneTerm_closes)).node

theorem phraseNode_closes : Closes Grammar.PhraseNode :=
  (separated_closes (separated_inside (separated_inside oneTerm_inside))
    (separated_closes (separated_inside oneTerm_inside)
      (separated_closes oneTerm_inside oneTerm_closes))).node

theorem termSet_traces : Traces termSet :=
  level_traces term_sound oneTerm_inside oneTerm_closes term_traces (by decide)

theorem wordPosition_traces : Traces wordPosition :=
  level_traces termSet_sound setNode_inside setNode_closes termSet_traces (by decide)

theorem phrase_traces : Traces phrase :=
  level_traces wordPosition_sound wordNode_inside wordNode_closes wordPosition_traces (by decide)

theorem query_traces : Traces query := by
  intro start scanner after passed fault reaches unopened failed
  rw [query_eq] at failed
  rcases bind_eq_error failed with here | ⟨whole, between, one, rest⟩
  · exact level_traces phrase_sound phraseNode_inside phraseNode_closes phrase_traces (by decide)
      reaches unopened here
  · rcases level_sound phrase_sound one with ⟨tokens, steps, first, items, separated, rfl⟩
    have within := separated_inside phraseNode_inside separated
    have closed := separated_closes phraseNode_inside phraseNode_closes separated
    have reaches' := reaches.append steps within.2
    unfold finish at rest
    rcases located_or_next reaches' rest with found | ⟨token, behind, read, done⟩
    · exact found
    by_cases atEnd : token.isEnding = true
    · rw [if_pos atEnd] at done
      cases done
    · rw [if_neg atEnd] at done
      cases done
      have text := shown_of_unopened (closed.behind within.1 passed) token
      exact located_at reaches' read (by decide) (next_kept read) rfl text.symm

end Parser

/-! ## Texts -/

namespace Query

open CorpusQuery.Parser

section AnyEngine

variable [Pattern.Engine]

theorem located_of_parse {text : String} {fault : Fault} (rejected : parse text = .error fault) :
    Located (.ofText text) fault := by
  unfold parse at rejected
  rcases ran : Parser.query.runOn (.ofText text) with ⟨result, after⟩
  rw [ran] at rejected
  cases rejected
  have reaches : Scanner.Reaches (.ofText text) [] (.ofText text) :=
    ⟨.done rfl, fun token impossible => absurd impossible List.not_mem_nil⟩
  exact query_traces reaches unopened_nil ran

/-- The text shown before a fault is a beginning of the text.

If the scanner meets the fault, what is shown runs on from there to the character
where reading stopped, as far as there is one.  The tokens before the fault are all
that scanning finds, and the token that cannot be read starts behind them where the
text before the fault ends.

Otherwise the fault is found at a token, the only one at this offset.  Its text is
shown, but for a parenthesis that is closed as soon as it is opened. -/
theorem fault_context {text : String} {fault : Fault} (rejected : parse text = .error fault) :
    fault.parsed.toList <+: text.toList ∧
      (fault.cause.stage = .lexical ->
        fault.parsed ++ fault.fragment =
          String.ofList (text.toList.take (min (fault.position + 1) text.length)) ∧
        Exists fun passed => Scanner.tokens text = passed.map .ok ++ [.error fault] ∧
          Token.Spaced 0 passed fault.parsed.toList ∧
            Scanner.BreaksAt text fault.parsed.length fault) ∧
      (fault.cause.stage ≠ .lexical ->
        fault.parsed.length = fault.position ∧ fault.position ≤ text.length ∧
        Exists fun passed => Exists fun token => Exists fun rest =>
          Scanner.tokens text = passed.map .ok ++ .ok token :: rest ∧
            Scanner.tokensAt text fault.position = [token] ∧
              fault.fragment = shown passed token) := by
  cases located_of_parse rejected with
  | @unread passed last after reaches failed =>
      have lexical := Scanner.next_error failed
      rcases reaches.breaksAt failed with ⟨spaced, breaks, before, whole⟩
      rcases reaches.listed with ⟨rest, listed, stops⟩
      rw [failed] at listed stops
      rw [stops fault rfl] at listed
      refine ⟨before, fun _ => ⟨?_, passed, listed, spaced, breaks⟩,
        fun other => absurd lexical other⟩
      rw [<- String.length_toList, <- List.take_eq_take_min, <- whole, <- String.toList_append,
        String.ofList_toList]
  | @blamed passed token last after reaches read stage position parsed fragment =>
      rcases reaches.steps.spaced rfl reaches.inside read with
        ⟨front, behind, whole, spaced, starts, _⟩
      change text.toList = front ++ behind at whole
      have offset : fault.position = front.length := by
        rw [position, starts]
        exact Nat.zero_add _
      have before : fault.parsed.toList = front := by
        rw [parsed, <- position, offset, Scanner.consumed, String.toList_ofList]
        change text.toList.take front.length = front
        rw [whole, List.take_left]
      rcases reaches.listed with ⟨rest, listed, _⟩
      rw [read] at listed
      refine ⟨?_, fun lexical => absurd lexical stage, fun _ => ⟨?_, ?_, passed, token, rest, listed,
        ?_, fragment⟩⟩
      · rw [before, whole]
        exact List.prefix_append _ _
      · rw [<- String.length_toList, before, offset]
      · rw [offset, <- String.length_toList, whole, List.length_append]
        exact Nat.le_add_right _ _
      · rw [position]
        exact Scanner.tokensAt_eq listed

end AnyEngine

/-- Nothing is shown of an empty payload, which is found at its parenthesis.  A text
with a wrong escape behind a word is shown from its quote on. -/
theorem fault_context_of_empty_payload :
    let fault : Fault := ⟨.emptyTerm, "", "spe(\"(\") :!mor( ", 16⟩
    let other : Fault := ⟨.invalidEscape 'q', "\"a\\q", "x ", 5⟩
    (parse "spe(\"(\") :!mor( )" = .error fault ∧
      Exists fun passed => Exists fun token => Exists fun rest =>
        Scanner.tokens "spe(\"(\") :!mor( )" = passed.map .ok ++ .ok token :: rest ∧
          Scanner.tokensAt "spe(\"(\") :!mor( )" fault.position = [token] ∧
            fault.fragment = shown passed token) ∧
    parse "x \"a\\qb" = .error other ∧
      Exists fun passed => Scanner.tokens "x \"a\\qb" = passed.map .ok ++ [.error other] ∧
        Token.Spaced 0 passed other.parsed.toList ∧
          Scanner.BreaksAt "x \"a\\qb" other.parsed.length other := by
  intro fault other
  have found : fault? "spe(\"(\") :!mor( )" = some fault := by decide +kernel
  have found' : fault? "x \"a\\qb" = some other := by decide +kernel
  have rejected := parse_of_fault? found
  have rejected' := parse_of_fault? found'
  refine ⟨⟨rejected, ?_⟩, rejected', ?_⟩
  · exact ((fault_context rejected).2.2 (by decide)).2.2
  · exact ((fault_context rejected').2.1 rfl).2

end Query
end CorpusQuery
