import CorpusQuery.Pattern.Standard
import CorpusQuery.Proofs.Query.Completion

namespace CorpusQuery

/-!
# Texts that end too soon

A text that lacks something at its end is told apart from a text that is wrong:
the fault of the first says that the text ends too soon, and no other fault does.

One half is the completion of the text before a fault, since this fault is found
at the end of the text.  The other half follows a reader through tokens that are
the beginning of something it could read (`Stalls`).  It either misses a token
and says so, or is content with what it has and stops at the end, as a bare word
is read where a name with its parenthesis was meant.  No third outcome exists,
and at the level of queries the second one is acceptance.
-/

namespace Scanner

/-- The next step leaves a scanner that has handed out a token. -/
def Started (scanner : Scanner) : Prop :=
  scanner.next.2.sawToken = true

theorem started_of_sawToken {scanner : Scanner} (saw : scanner.sawToken = true) :
    scanner.Started := by
  have kept : scanner.scan.2.sawToken = true := (scanToken_sawToken scanner.skipBlanks).trans saw
  unfold Started next
  cases pushed : scanner.pushed with
  | some token => simp only [handOut, saw, Bool.true_or]
  | none =>
      rcases scanned : scanner.scan with ⟨result, after⟩
      rw [scanned] at kept
      cases result with
      | ok token =>
          change (after.sawToken || !token.isEnding) = true
          rw [kept, Bool.true_or]
      | error fault => exact kept

/-- A token inside the text starts the scanner. -/
theorem sawToken_of_next {scanner after : Scanner} {token : Token}
    (read : scanner.next = (.ok token, after)) (inside : token.isEnding = false) :
    after.sawToken = true := by
  rcases next_cases read with ⟨_, rfl⟩ | ⟨_, between, _, rfl⟩
  · simp only [handOut, inside, Bool.not_false, Bool.or_true]
  · simp only [handOut, inside, Bool.not_false, Bool.or_true]

theorem Yields.length_le {scanner : Scanner} {tokens : List Token} {ending : Token}
    (yields : Yields scanner tokens ending) : tokens.length ≤ Parser.tokensLeft scanner := by
  rcases yields_iff.mp yields with ⟨inside, last, after, steps, _, _⟩
  have few := steps.length_le inside
  have short := scanner.left_le
  unfold Parser.tokensLeft
  omega

end Scanner

namespace Parser

open ParseM

variable {α β : Type}

/-! ## Running out of tokens -/

theorem bind_of_error {reader : ParseM α} {further : α -> ParseM β} {scanner after : Scanner}
    {fault : Fault} (failed : reader.runOn scanner = (.error fault, after)) :
    ParseM.runOn (reader >>= further) scanner = (.error fault, after) := by
  rw [runOn_bind, failed]

/-- The reader misses a token behind the last one, or it stops at the end. -/
inductive RunsOut (reader : ParseM α) (scanner : Scanner) : Prop
  | missing {fault : Fault} {after : Scanner}
      (failed : reader.runOn scanner = (.error fault, after)) (early : fault.cause = .endsTooSoon)
  | stopped {item : α} {reached behind : Scanner} {ending : Token}
      (read : reader.runOn scanner = (.ok item, reached))
      (next : reached.next = (.ok ending, behind)) (atEnd : ending.isEnding = true)

theorem RunsOut.congr {reader other : ParseM α} {scanner between : Scanner}
    (runsOut : RunsOut reader between) (same : other.runOn scanner = reader.runOn between) :
    RunsOut other scanner := by
  cases runsOut with
  | missing failed early => exact .missing (same.trans failed) early
  | stopped read next atEnd => exact .stopped (same.trans read) next atEnd

/-- On the beginning of something that is derived the reader runs out of tokens. -/
def Stalls (reader : ParseM α) (derives : List Token -> α -> Prop) : Prop :=
  forall ⦃scanner : Scanner⦄ ⦃tokens more : List Token⦄ ⦃ending : Token⦄ ⦃item : α⦄,
    scanner.Yields tokens ending -> scanner.Started -> derives (tokens ++ more) item ->
      more ≠ [] -> RunsOut reader scanner

theorem Stalls.congr {reader : ParseM α} {derives other : List Token -> α -> Prop}
    (stalls : Stalls reader derives)
    (same : forall ⦃tokens item⦄, other tokens item -> derives tokens item) :
    Stalls reader other := by
  intro scanner tokens more ending item yields started derived missing
  exact stalls yields started (same derived) missing

/-! ## Terms -/

theorem isText_of_isEnding {token : Token} (atEnd : token.isEnding = true) :
    token.isText = false := by
  rw [Bool.eq_false_iff]
  intro carries
  rw [isEnding_of_isText carries] at atEnd
  cases atEnd

theorem stripBraces_of_mnemonic {name : String} {attr : Attribute}
    (spelled : name.toList.map Text.lowerAscii = attr.mnemonic.toList) :
    stripBraces name = none := by
  have unbraced : forall attr, attr ∈ Attribute.all -> attr.mnemonic.toList.head? ≠ some '{' := by
    decide +kernel
  cases stripped : stripBraces name with
  | none => rfl
  | some inner =>
      apply False.elim
      apply unbraced attr (Attribute.mem_all attr)
      rw [<- spelled, eq_braced_of_stripBraces stripped]
      rfl

section AnyEngine

variable [Pattern.Engine]

/-- Behind an opening parenthesis nothing but the closing one completes a term. -/
theorem payload_stalls {attr : Attribute} {negated : Bool} {scanner : Scanner}
    {tokens more : List Token} {ending : Token} {term : Term}
    (yields : scanner.Yields tokens ending)
    (derived : Grammar.Payload attr negated (tokens ++ more) term) (missing : more ≠ []) :
    RunsOut (payload attr negated) scanner := by
  cases yields with
  | @ending _ after _ read atEnd =>
      have failed : (payload attr negated).runOn scanner =
          (.error (faultAt after .endsTooSoon ending), after) := by
        unfold payload
        rw [runOn_bind, runOn_next, read]
        simp only [isMark_of_isEnding atEnd, isText_of_isEnding atEnd, atEnd, if_true]
        rfl
      exact .missing failed rfl
  | @token _ between first _ tokens read inside later =>
      generalize shown : first :: tokens ++ more = all at derived
      rcases derived with ⟨closed, valid⟩ | ⟨carries, valid, closed⟩
      · exact absurd (List.append_eq_nil_iff.mp (List.cons.inj shown).2).2 missing
      · rcases List.cons.inj shown with ⟨rfl, rest⟩
        cases later with
        | token _ _ _ => exact absurd (List.append_eq_nil_iff.mp (List.cons.inj rest).2).2 missing
        | @ending _ after _ read' atEnd =>
            have failed : (payload attr negated).runOn scanner =
                (.error (faultAt after .endsTooSoon ending), after) := by
              unfold payload
              rw [runOn_bind, runOn_next, read]
              simp only [isMark_of_isText carries, carries, if_true]
              rw [if_neg (by decide), runOn_bind, buildTerm_eq_ok.mpr ⟨valid, rfl⟩]
              simp only
              rw [runOn_bind, runOn_next, read']
              simp only [isMark_of_isEnding atEnd, atEnd, if_true]
              rfl
            exact .missing failed rfl

/-- A name without its parenthesis is read as a bare word. -/
theorem termFrom_stalls {negated : Bool} {token : Token} {tokens more : List Token}
    {scanner : Scanner} {ending : Token} {term : Term} (yields : scanner.Yields tokens ending)
    (derived : Grammar.Plain negated (token :: (tokens ++ more)) term) (missing : more ≠ []) :
    RunsOut (termFrom negated token) scanner := by
  generalize shown : tokens ++ more = rest at derived
  rcases derived with ⟨isWord, spelled, opened, inside⟩ | ⟨isWord, valid⟩
  · -- The end comes right behind the name, or the parenthesis was still read.
    cases yields with
    | @ending _ after _ read atEnd =>
        have valid := termOfText_unbraced (stripBraces_of_mnemonic spelled) negated
        have bare : (termFrom negated token).runOn scanner =
            (.ok ⟨.spelling, token.text, negated, false⟩, after.pushBack) := by
          unfold termFrom
          simp only [isWord]
          rw [runOn_bind, runOn_next, read]
          simp only [isMark_of_isEnding atEnd]
          exact buildTerm_eq_ok.mpr ⟨valid, rfl⟩
        exact .stopped bare ((Scanner.next_pushBack read).trans read) atEnd
    | @token _ between opening _ tokens read _ later =>
        rcases List.cons.inj shown with ⟨rfl, rfl⟩
        refine (payload_stalls later inside missing).congr ?_
        unfold termFrom
        simp only [isWord]
        rw [runOn_bind, runOn_next, read]
        simp only [isMark_iff.mpr opened, if_true, Attribute.ofMnemonic?_eq_some_iff.mpr spelled]
  · exact absurd (List.append_eq_nil_iff.mp shown).2 missing

/-- Where a term starts, the end of the text is too soon. -/
theorem termFrom_ending {scanner : Scanner} {ending : Token} (negated : Bool)
    (saw : scanner.sawToken = true) (atEnd : ending.isEnding = true) :
    RunsOut (termFrom negated ending) scanner := by
  have kind : ending.kind = .ending := of_decide_eq_true atEnd
  have failed : (termFrom negated ending).runOn scanner =
      (.error (faultAt scanner .endsTooSoon ending), scanner) := by
    unfold termFrom
    simp only [kind]
    rw [runOn_bind, runOn_get]
    simp only [Scanner.isBlank, saw]
    rfl
  exact .missing failed rfl

theorem term_stalls : Stalls term Grammar.OneTerm := by
  intro scanner tokens more ending item yields started derived missing
  have plain : forall {token : Token} {between : Scanner}, scanner.next = (.ok token, between) ->
      token.isMark .bang = false ->
        term.runOn scanner = (termFrom false token).runOn between := by
    intro token between read unmarked
    unfold term
    rw [runOn_bind, runOn_next, read]
    simp only [unmarked]
    rfl
  cases yields with
  | @ending _ after _ read atEnd =>
      rw [Scanner.Started, read] at started
      exact (termFrom_ending false started atEnd).congr
        (plain read (isMark_of_isEnding atEnd .bang))
  | @token _ between first _ tokens read inside later =>
      rw [List.cons_append] at derived
      cases derived with
      | plain body =>
          rcases plain_head body with ⟨token, others, shown, isWord⟩
          rcases List.cons.inj shown with ⟨rfl, _⟩
          have unmarked : first.isMark .bang = false := by
            rw [Token.isMark, isWord]
            rfl
          exact (termFrom_stalls later body missing).congr (plain read unmarked)
      | negated marked body =>
          have negation : term.runOn scanner = ParseM.runOn (next >>= termFrom true) between := by
            unfold term
            rw [runOn_bind, runOn_next, read]
            simp only [isMark_iff.mpr marked, if_true]
          cases later with
          | @ending _ after _ read' atEnd =>
              have again := Scanner.started_of_sawToken (Scanner.sawToken_of_next read inside)
              rw [Scanner.Started, read'] at again
              refine (termFrom_ending true again atEnd).congr ?_
              rw [negation, runOn_bind, runOn_next, read']
          | @token _ behind name _ tokens read' _ later =>
              refine (termFrom_stalls later body missing).congr ?_
              rw [negation, runOn_bind, runOn_next, read']

end AnyEngine

/-! ## Levels -/

section Levels

variable {separator : Mark} {member : ParseM α} {derives : List Token -> α -> Prop}
  {add : β -> α -> β} {follow : List Mark}

/-- Reading the first of several members that break off: it misses a token, or it
gets through and stands before the beginning of the others. -/
inductive BreaksOff (separator : Mark) (member : ParseM α) (derives : List Token -> α -> Prop)
    (scanner : Scanner) (count : Nat) : Prop
  | missing {fault : Fault} {after : Scanner}
      (failed : member.runOn scanner = (.error fault, after)) (early : fault.cause = .endsTooSoon)
  | ahead {item : α} {reached : Scanner} {tokens more : List Token} {ending : Token}
      {items : List α} (read : member.runOn scanner = (.ok item, reached))
      (yields : reached.Yields tokens ending) (fewer : tokens.length ≤ count)
      (further : Grammar.Further separator derives (tokens ++ more) items)

theorem stopsBefore_of_yields (apart : separator ∉ follow) {scanner : Scanner}
    {tokens more : List Token} {ending : Token} {items : List α}
    (yields : scanner.Yields tokens ending)
    (further : Grammar.Further separator derives (tokens ++ more) items) :
    StopsBefore follow scanner := by
  cases yields with
  | ending read atEnd => exact stopsBefore_of_ending read atEnd
  | @token _ after first _ tokens read inside later =>
      rw [List.cons_append] at further
      generalize tokens ++ more = others at further
      rcases further with _ | ⟨separates, _, _⟩
      refine ⟨first, after, read, fun mark among same => apart ?_⟩
      rw [separates] at same
      cases same
      exact among

theorem breaksOff (stalls : Stalls member derives) (complete : Complete member derives follow)
    (apart : separator ∉ follow) {scanner : Scanner} {tokens more first rest : List Token}
    {ending : Token} {item : α} {items : List α} (yields : scanner.Yields tokens ending)
    (started : scanner.Started) (whole : tokens ++ more = first ++ rest)
    (derived : derives first item) (further : Grammar.Further separator derives rest items) :
    BreaksOff separator member derives scanner tokens.length := by
  -- The first member is written out: it is read, and the others break off.
  have written : forall others, tokens = first ++ others -> rest = others ++ more ->
      BreaksOff separator member derives scanner tokens.length := by
    rintro others rfl rfl
    rcases yields.split with ⟨middle, steps, remaining⟩
    rcases complete derived steps (stopsBefore_of_yields apart remaining further) with
      ⟨reached, ran, same⟩
    refine .ahead ran (remaining.of_next same) ?_ further
    rw [List.length_append]
    exact Nat.le_add_left _ _
  rcases List.append_eq_append_iff.mp whole with ⟨lacking, shown, _⟩ | ⟨others, shown, later⟩
  · by_cases none : lacking = []
    · subst none
      rw [List.append_nil] at shown
      subst shown
      exact written [] (List.append_nil _).symm (List.append_cancel_left whole).symm
    · rw [shown] at derived
      cases stalls yields started derived none with
      | missing failed early => exact .missing failed early
      | stopped read next atEnd =>
          have nothing : Grammar.Further separator derives ([] ++ []) [] := .none
          exact .ahead read (.ending next atEnd) (Nat.zero_le _) nothing
  · exact written others shown later

/-- The loop stops at the end of the text. -/
theorem membersAfter_ending {scanner after : Scanner} {ending : Token} (bound : Nat) (whole : β)
    (read : scanner.next = (.ok ending, after)) (atEnd : ending.isEnding = true) :
    RunsOut (membersAfter separator member add bound whole) scanner := by
  cases bound with
  | zero => exact .stopped rfl read atEnd
  | succ bound =>
      have stopped : (membersAfter separator member add (bound + 1) whole).runOn scanner =
          (.ok whole, after.pushBack) := by
        unfold membersAfter
        rw [runOn_bind, runOn_next, read]
        simp only [isMark_of_isEnding atEnd]
        rfl
      exact .stopped stopped ((Scanner.next_pushBack read).trans read) atEnd

/-- Further members that break off: each round reads a separator and a member, or
runs out of tokens. -/
theorem membersAfter_stalls (stalls : Stalls member derives)
    (complete : Complete member derives follow) (apart : separator ∉ follow) (bound : Nat)
    {scanner : Scanner} {tokens more : List Token} {ending : Token} {items : List α}
    (yields : scanner.Yields tokens ending) (enough : tokens.length ≤ bound)
    (further : Grammar.Further separator derives (tokens ++ more) items) (whole : β) :
    RunsOut (membersAfter separator member add bound whole) scanner := by
  induction bound generalizing scanner tokens more ending items whole with
  | zero =>
      cases yields with
      | ending read atEnd => exact membersAfter_ending 0 whole read atEnd
      | token _ _ _ => cases enough
  | succ bound ih =>
      cases yields with
      | ending read atEnd => exact membersAfter_ending (bound + 1) whole read atEnd
      | @token _ between mark _ tokens read inside later =>
          have started := Scanner.started_of_sawToken (Scanner.sawToken_of_next read inside)
          have short : tokens.length ≤ bound := Nat.le_of_succ_le_succ enough
          rw [List.cons_append] at further
          generalize shown : tokens ++ more = rest at further
          rcases further with _ | ⟨separates, derived, others⟩
          have round : (membersAfter separator member add (bound + 1) whole).runOn scanner =
              ParseM.runOn (member >>= fun item =>
                membersAfter separator member add bound (add whole item)) between := by
            rw [membersAfter, runOn_bind, runOn_next, read]
            simp only [isMark_iff.mpr separates, if_true]
          cases breaksOff stalls complete apart later started shown derived others with
          | missing failed early => exact .missing (round.trans (bind_of_error failed)) early
          | @ahead item _ _ _ _ _ one remaining fewer others =>
              have loop := ih remaining (Nat.le_trans fewer short) others (add whole item)
              refine loop.congr (round.trans ?_)
              rw [runOn_bind, one]

theorem level_stalls {start : α -> β} (stalls : Stalls member derives)
    (complete : Complete member derives follow) (apart : separator ∉ follow) :
    Stalls (level separator member start add) (Assembled separator derives start add) := by
  intro scanner tokens more ending whole yields started assembled missing
  rcases assembled with ⟨first, items, separated, _⟩
  generalize shown : tokens ++ more = all at separated
  rcases separated with ⟨derived, further⟩
  cases breaksOff stalls complete apart yields started shown derived further with
  | missing failed early => exact .missing (bind_of_error failed) early
  | @ahead item reached _ _ _ _ read remaining _ later =>
      have loop : RunsOut (membersAfter separator member add (tokensLeft reached) (start item))
          reached :=
        membersAfter_stalls stalls complete apart _ remaining remaining.length_le later _
      refine loop.congr ?_
      unfold level
      rw [runOn_bind, read]
      simp only [runOn_bind, runOn_get]

end Levels

variable [Pattern.Engine]

theorem termSet_stalls : Stalls termSet Grammar.SetNode :=
  (level_stalls term_stalls term_complete (by decide)).congr fun _ _ => assembled_set.mpr

theorem wordPosition_stalls : Stalls wordPosition Grammar.WordNode :=
  (level_stalls termSet_stalls termSet_complete (by decide)).congr fun _ _ => assembled_word.mpr

theorem phrase_stalls : Stalls phrase Grammar.PhraseNode :=
  (level_stalls wordPosition_stalls wordPosition_complete (by decide)).congr fun _ _ =>
    assembled_phrase.mpr

/-! ## Whole queries -/

/-- Whole queries that break off are read as they stand or miss a token. -/
theorem phrasesAfter_stalls (bound : Nat) {scanner : Scanner} {tokens more : List Token}
    {ending : Token} {phrases : List Phrase} (yields : scanner.Yields tokens ending)
    (enough : tokens.length ≤ bound)
    (further : Grammar.Further .bar Grammar.PhraseNode (tokens ++ more) phrases) (whole : Query) :
    forall {fault : Fault} {after : Scanner},
      (phrasesAfter bound whole).runOn scanner = (.error fault, after) ->
        fault.cause = .endsTooSoon := by
  induction bound generalizing scanner tokens more ending phrases whole with
  | zero =>
      intro fault after failed
      cases failed
  | succ bound ih =>
      intro fault after failed
      unfold phrasesAfter at failed
      cases yields with
      | @ending _ behind _ read atEnd =>
          rw [runOn_bind, runOn_next, read] at failed
          simp only [isMark_of_isEnding atEnd, atEnd, if_true] at failed
          cases failed
      | @token _ between mark _ tokens read inside later =>
          have started := Scanner.started_of_sawToken (Scanner.sawToken_of_next read inside)
          have short : tokens.length ≤ bound := Nat.le_of_succ_le_succ enough
          rw [List.cons_append] at further
          generalize shown : tokens ++ more = rest at further
          rcases further with _ | ⟨separates, derived, others⟩
          rw [runOn_bind, runOn_next, read] at failed
          simp only [isMark_iff.mpr separates, if_true] at failed
          cases breaksOff phrase_stalls phrase_complete (by decide) later started shown derived
            others with
          | missing failed' early =>
              rw [bind_of_error failed'] at failed
              cases failed
              exact early
          | ahead one remaining fewer others =>
              rw [runOn_bind, one] at failed
              exact ih remaining (Nat.le_trans fewer short) others _ failed

end Parser

namespace Query

open ParseM CorpusQuery.Parser

section AnyEngine

variable [Pattern.Engine]

/-- A text whose tokens are the beginning of a query is read, or it ends too soon. -/
theorem endsTooSoon_of_derived {text : String} {tokens more : List Token} {ending : Token}
    {query : Query} {fault : Fault} (yields : Scanner.Yields (.ofText text) tokens ending)
    (nonempty : tokens ≠ []) (derived : Grammar.QueryNode (tokens ++ more) query)
    (rejected : parse text = .error fault) : fault.cause = .endsTooSoon := by
  have started : Scanner.Started (.ofText text) := by
    cases yields with
    | ending _ _ => exact False.elim (nonempty rfl)
    | token read inside _ =>
        rw [Scanner.Started, read]
        exact Scanner.sawToken_of_next read inside
  rcases derived with ⟨tree, whole, _⟩
  rcases whole.lift (fun _ _ => Grammar.exists_phrase) with ⟨nodes, _, separated⟩
  generalize shown : tokens ++ more = all at separated
  rcases separated with ⟨one, further⟩
  unfold parse Parser.query at rejected
  cases breaksOff phrase_stalls phrase_complete (by decide) yields started shown one further with
  | missing failed early =>
      rw [bind_of_error failed] at rejected
      cases rejected
      exact early
  | @ahead item reached _ _ _ _ read remaining _ later =>
      rw [runOn_bind, read] at rejected
      simp only [runOn_bind, runOn_get] at rejected
      rcases ran : (phrasesAfter (tokensLeft reached) ⟨item, []⟩).runOn reached with ⟨result, after⟩
      rw [ran] at rejected
      cases rejected
      exact phrasesAfter_stalls _ remaining remaining.length_le later _ ran

/-- The tokens of a text come first among the tokens of a text that continues it
behind a blank. -/
theorem exists_append_of_parse {text more : String} {tokens : List Token} {ending : Token}
    {query : Query} (yields : Scanner.Yields (.ofText text) tokens ending)
    (accepted : parse (text ++ " " ++ more) = .ok query) :
    Exists fun others => Grammar.QueryNode (tokens ++ others) query := by
  rcases derived_of_parse accepted with ⟨all, ending', yields', derived⟩
  have spaced := yields.spaced
  have stands : Scanner.At (.ofText (text ++ " " ++ more))
      (text.toList ++ (' ' :: more.toList)) := by
    have stands := Scanner.at_ofText (text ++ " " ++ more)
    rw [String.toList_append, String.toList_append, List.append_assoc] at stands
    exact stands
  have ends : EndsWord (' ' :: more.toList) := endsWord_cons.mpr (by decide)
  rcases Scanner.steps_of_spaced spaced stands rfl ends with ⟨after, steps, _⟩
  rcases steps.exists_append spaced.inside yields' with ⟨others, rfl⟩
  exact ⟨others, derived⟩

/-- Of a text that is rejected, though it has tokens and the scanner gets through
it, the fault says that it ends too soon exactly when something can be written
behind it, after a blank, that makes it a query. -/
theorem endsTooSoon_iff {text : String} {tokens : List Token} {ending : Token} {fault : Fault}
    (yields : Scanner.Yields (.ofText text) tokens ending) (nonempty : tokens ≠ [])
    (rejected : parse text = .error fault) :
    fault.cause = .endsTooSoon <->
      Exists fun more => Exists fun query => parse (text ++ " " ++ more) = .ok query := by
  constructor
  · intro early
    have grammatical : fault.cause.stage ≠ .lexical := by
      rw [early]
      decide
    rcases blames_of_parse rejected grammatical with ⟨passed, located, completable⟩
    rcases spaced_of_blames located with ⟨spaced, reached⟩
    rw [reached early] at spaced
    exact exists_parse_append spaced completable (by decide)
  · rintro ⟨more, query, accepted⟩
    rcases exists_append_of_parse yields accepted with ⟨others, derived⟩
    exact endsTooSoon_of_derived yields nonempty derived rejected

end AnyEngine

/-- Behind a negated name the text and the closing parenthesis are missing.
Behind a name that no attribute has nothing helps. -/
theorem endsTooSoon_iff_of_negation :
    let named (name : String) : List Token := [⟨.word, "x", 0⟩, ⟨.mark .dollar, "$", 1⟩,
      ⟨.mark .bang, "!", 2⟩, ⟨.word, name, 3⟩, ⟨.mark .openParen, "(", 6⟩]
    (Scanner.Yields (.ofText "x$!mor(") (named "mor") (.ending 7) ∧
      parse "x$!mor(" = .error ⟨.endsTooSoon, "", "x$!mor(", 7⟩ ∧
        Exists fun more => Exists fun query => parse ("x$!mor(" ++ " " ++ more) = .ok query) ∧
    (Scanner.Yields (.ofText "x$!moo(") (named "moo") (.ending 7) ∧
      parse "x$!moo(" = .error ⟨.unknownAttribute, "moo", "x$!", 3⟩ ∧
        ¬ Exists fun more => Exists fun query => parse ("x$!moo(" ++ " " ++ more) = .ok query) := by
  intro named
  have nonempty : forall name, named name ≠ [] := fun name => List.cons_ne_nil _ _
  constructor
  · have listed : (Scanner.tokens "x$!mor(").map Except.toOption =
        (named "mor" ++ [Token.ending 7]).map some := by decide +kernel
    have found : fault? "x$!mor(" = some ⟨.endsTooSoon, "", "x$!mor(", 7⟩ := by decide +kernel
    have yields := Scanner.yields_of_drain listed rfl
    have rejected := parse_of_fault? found
    exact ⟨yields, rejected, (endsTooSoon_iff yields (nonempty _) rejected).mp rfl⟩
  · have listed : (Scanner.tokens "x$!moo(").map Except.toOption =
        (named "moo" ++ [Token.ending 7]).map some := by decide +kernel
    have found : fault? "x$!moo(" = some ⟨.unknownAttribute, "moo", "x$!", 3⟩ := by decide +kernel
    have yields := Scanner.yields_of_drain listed rfl
    have rejected := parse_of_fault? found
    refine ⟨yields, rejected, fun completed => ?_⟩
    have early := (endsTooSoon_iff yields (nonempty _) rejected).mpr completed
    cases early

end Query
end CorpusQuery
