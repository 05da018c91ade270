import CorpusQuery.Proofs.Query.Agreement
import CorpusQuery.Proofs.Token.Cursor

namespace CorpusQuery

/-!
# Readers one after another

The levels of a query can be read by themselves, and one after another with the
same scanner.  Each of them looks at the token behind its last one and takes it
back, so it has to be shown that the next reader starts exactly there: what a
reader returns is derived from the tokens that stand next in the stream, and the
reader behind it finds the stream from the first token on that was not among them.

What is returned could not have been longer.  A reader with separators stops only
where none of them follows, nor one of the levels below, and a bare word ends only
where no parenthesis opens.  Conversely a reader fails only where nothing of its
level stands that ends in this way.
-/

/-! ## Tokens of a stream -/

/-- The tokens stand in the stream from a place on. -/
def Stands (stream : Nat -> Except Fault Token) (place : Nat) (tokens : List Token) : Prop :=
  (List.range' place tokens.length).map stream = tokens.map .ok

/-- A token can be read, and it is not this mark. -/
def Clear (mark : Mark) (behind : Except Fault Token) : Prop :=
  Exists fun token => behind = .ok token ∧ token.kind ≠ .mark mark

/-- Tokens end where nothing follows that would continue them. -/
structure EndsBefore (separators : List Mark) (tokens : List Token)
    (behind : Except Fault Token) : Prop where
  separators : forall mark, mark ∈ separators -> Clear mark behind
  word : forall word, tokens.getLast? = some word -> word.kind = .word -> Clear .openParen behind

theorem stands_cons {stream : Nat -> Except Fault Token} {place : Nat} {token : Token}
    {tokens : List Token} :
    Stands stream place (token :: tokens) <->
      stream place = .ok token ∧ Stands stream (place + 1) tokens := by
  rw [Stands, List.length_cons, List.range'_succ, List.map_cons, List.map_cons, List.cons.injEq]
  rfl

namespace EndsBefore

variable {separators : List Mark} {tokens : List Token} {behind : Except Fault Token}

/-- Tokens that end with another token than a word can be followed by anything. -/
theorem of_last {last : Token} (ends : tokens.getLast? = some last) (other : last.kind ≠ .word) :
    EndsBefore [] tokens behind where
  separators mark impossible := absurd impossible List.not_mem_nil
  word word same isWord := by
    rw [ends] at same
    cases same
    exact absurd isWord other

theorem behind_others (ends : EndsBefore separators tokens behind) (nonempty : tokens ≠ [])
    (others : List Token) : EndsBefore separators (others ++ tokens) behind where
  separators := ends.separators
  word word last isWord := by
    rw [List.getLast?_append_of_ne_nil others nonempty] at last
    exact ends.word word last isWord

theorem cons (ends : EndsBefore separators tokens behind) {mark : Mark}
    (clear : Clear mark behind) :
    EndsBefore (mark :: separators) tokens behind :=
  ⟨List.forall_mem_cons.mpr ⟨clear, ends.separators⟩, ends.word⟩

end EndsBefore

namespace Scanner

variable {stream : Nat -> Except Fault Token} {scanner after : Scanner} {place : Nat}
  {tokens : List Token}

/-- The tokens passed on the way stand next in the stream, and behind them the
stream goes on. -/
theorem Steps.faces (steps : Steps scanner tokens after) (faces : Faces stream scanner place) :
    Stands stream place tokens ∧ Faces stream after (place + tokens.length) := by
  induction steps generalizing place with
  | done same => exact ⟨rfl, faces.congr same⟩
  | @token scanner between after token tokens read later ih =>
      rcases ih (faces.next read) with ⟨others, behind⟩
      have here := faces.here
      rw [read] at here
      refine ⟨stands_cons.mpr ⟨here.symm, others⟩, ?_⟩
      rw [List.length_cons, Nat.add_comm tokens.length, <- Nat.add_assoc]
      exact behind

theorem Faces.steps (faces : Faces stream scanner place) (stands : Stands stream place tokens) :
    Exists fun after => Steps scanner tokens after := by
  induction tokens generalizing scanner place with
  | nil => exact ⟨scanner, .done rfl⟩
  | cons token tokens ih =>
      rcases stands_cons.mp stands with ⟨first, others⟩
      have here := faces.here
      rcases read : scanner.next with ⟨result, between⟩
      rw [read, first] at here
      change result = .ok token at here
      subst here
      rcases ih (faces.next read) others with ⟨after, later⟩
      exact ⟨after, .token read later⟩

end Scanner

/-! ## Readers that stop in time -/

namespace Parser

open ParseM

section Levels

variable {α β : Type} {separator : Mark} {member : ParseM α} {derives : List Token -> α -> Prop}
  {add : β -> α -> β} {separators : List Mark}

/-- What the reader returns is derived from the tokens it passed, and these end
there. -/
def Exact (reader : ParseM α) (derives : List Token -> α -> Prop) (separators : List Mark) : Prop :=
  forall ⦃scanner after : Scanner⦄ ⦃item : α⦄, reader.runOn scanner = (.ok item, after) ->
    Exists fun tokens => Scanner.Steps scanner tokens after ∧ derives tokens item ∧
      EndsBefore separators tokens after.next.1

theorem Exact.sound (exact : Exact member derives separators) : Sound member derives := by
  intro scanner after item read
  rcases exact read with ⟨tokens, steps, derived, _⟩
  exact ⟨tokens, steps, derived⟩

theorem Exact.congr {other : List Token -> α -> Prop} (exact : Exact member derives separators)
    (same : forall ⦃tokens item⦄, derives tokens item -> other tokens item) :
    Exact member other separators := by
  intro scanner after item read
  rcases exact read with ⟨tokens, steps, derived, ends⟩
  exact ⟨tokens, steps, same derived, ends⟩

/-- The loop goes on until no separator follows.  Its bound is not used up before,
since every round takes characters away. -/
theorem membersAfter_exact (exact : Exact member derives separators) (inside : Inside derives)
    (bound : Nat) {whole result : β} {scanner after : Scanner} (enough : scanner.left < bound)
    {passed : List Token} (ends : EndsBefore separators passed scanner.next.1)
    (read : (membersAfter separator member add bound whole).runOn scanner = (.ok result, after)) :
    Exists fun tokens => Exists fun items =>
      Scanner.Steps scanner tokens after ∧ Grammar.Further separator derives tokens items ∧
        result = items.foldl add whole ∧
        EndsBefore (separator :: separators) (passed ++ tokens) after.next.1 := by
  induction bound generalizing whole scanner passed with
  | zero => cases enough
  | succ bound ih =>
      unfold membersAfter at read
      rcases bind_eq_ok.mp read with ⟨token, between, next, rest⟩
      rw [runOn_next] at next
      by_cases marked : token.isMark separator = true
      · rw [if_pos marked] at rest
        rcases bind_eq_ok.mp rest with ⟨item, behind, one, loop⟩
        rcases exact one with ⟨tokens, steps, derived, stops⟩
        have shrinks := left_lt_of_member exact.sound inside next one
        have further := stops.behind_others (inside derived).1 (passed ++ [token])
        rcases ih (by omega) further loop with ⟨others, items, later, members, same, ends⟩
        refine ⟨token :: (tokens ++ others), item :: items, .token next (steps.append later),
          .more (isMark_iff.mp marked) derived members, same, ?_⟩
        rw [List.append_assoc, List.append_assoc] at ends
        exact ends
      · rw [if_neg marked] at rest
        simp only [runOn_bind, runOn_pushBack, runOn_pure] at rest
        cases rest
        have again := Scanner.next_pushBack next
        refine ⟨[], [], .done again.symm, .none, rfl, ?_⟩
        rw [List.append_nil, again]
        apply ends.cons
        rw [next]
        exact ⟨token, rfl, fun same => marked (isMark_iff.mpr same)⟩

theorem level_exact {start : α -> β} (exact : Exact member derives separators)
    (inside : Inside derives) :
    Exact (level separator member start add) (Assembled separator derives start add)
      (separator :: separators) := by
  intro scanner after whole read
  unfold level at read
  rcases bind_eq_ok.mp read with ⟨first, between, one, rest⟩
  rw [runOn_bind, runOn_get] at rest
  rcases exact one with ⟨tokens, steps, derived, stops⟩
  rcases membersAfter_exact exact inside _ (left_lt_tokensLeft between) stops rest with
    ⟨others, items, later, further, same, ends⟩
  exact ⟨tokens ++ others, steps.append later, ⟨first, items, .intro derived further, same⟩, ends⟩

end Levels

theorem kind_of_isEnding {token : Token} (atEnd : token.isEnding = true) : token.kind ≠ .word := by
  intro isWord
  rw [isEnding_of_word isWord] at atEnd
  cases atEnd

variable [Pattern.Engine]

/-- A payload ends with a parenthesis, whatever stands before it. -/
theorem payload_ends {attr : Attribute} {negated : Bool} {tokens : List Token} {term : Term}
    (derived : Grammar.Payload attr negated tokens term) (others : List Token)
    (behind : Except Fault Token) : EndsBefore [] (others ++ tokens) behind := by
  have bracket : forall closing : Token, closing.kind = .mark .closeParen ->
      closing.kind ≠ .word := by
    intro closing closed isWord
    rw [closed] at isWord
    cases isWord
  cases derived with
  | @empty closing term closed valid =>
      have ends : EndsBefore [] [closing] behind := .of_last rfl (bracket closing closed)
      exact ends.behind_others (List.cons_ne_nil _ _) others
  | @text text closing term carries valid closed =>
      have ends : EndsBefore [] [text, closing] behind := .of_last rfl (bracket closing closed)
      exact ends.behind_others (List.cons_ne_nil _ _) others

/-- From its name on, a term ends with a parenthesis, or it is a bare word and no
parenthesis follows. -/
theorem termFrom_exact {negated : Bool} {name : Token} {scanner after : Scanner} {term : Term}
    (read : (termFrom negated name).runOn scanner = (.ok term, after)) :
    Exists fun tokens =>
      Scanner.Steps scanner tokens after ∧ Grammar.Plain negated (name :: tokens) term ∧
        EndsBefore [] (name :: tokens) after.next.1 := by
  have isWord : name.kind = .word := by
    rcases termFrom_sound read with ⟨tokens, _, body⟩
    rcases plain_head body with ⟨first, others, same, isWord⟩
    cases same
    exact isWord
  unfold termFrom at read
  simp only [isWord] at read
  rcases bind_eq_ok.mp read with ⟨behind, between, next, rest⟩
  rw [runOn_next] at next
  by_cases opened : behind.isMark .openParen = true
  · rw [if_pos opened] at rest
    cases found : Attribute.ofMnemonic? name.text with
    | none =>
        rw [found] at rest
        exact absurd rest failAt_ne_ok
    | some attr =>
        rw [found] at rest
        rcases payload_sound attr negated rest with ⟨tokens, steps, inside⟩
        refine ⟨behind :: tokens, .token next steps, ?_, payload_ends inside [name, behind] _⟩
        exact .named isWord (Attribute.ofMnemonic?_eq_some_iff.mp found) (isMark_iff.mp opened)
          inside
  · rw [if_neg opened] at rest
    simp only [runOn_bind, runOn_pushBack] at rest
    rcases buildTerm_eq_ok.mp rest with ⟨valid, rfl⟩
    have again := Scanner.next_pushBack next
    refine ⟨[], .done again.symm, .bare isWord valid, ?_⟩
    rw [again, next]
    exact ⟨fun mark impossible => absurd impossible List.not_mem_nil,
      fun _ _ _ => ⟨behind, rfl, fun same => opened (isMark_iff.mpr same)⟩⟩

theorem term_exact : Exact term Grammar.OneTerm [] := by
  intro scanner after item read
  unfold term at read
  rcases bind_eq_ok.mp read with ⟨token, between, next, rest⟩
  rw [runOn_next] at next
  by_cases marked : token.isMark .bang = true
  · rw [if_pos marked] at rest
    rcases bind_eq_ok.mp rest with ⟨name, behind, next', rest⟩
    rw [runOn_next] at next'
    rcases termFrom_exact rest with ⟨tokens, steps, body, ends⟩
    refine ⟨token :: name :: tokens, .token next (.token next' steps),
      .negated (isMark_iff.mp marked) body, ?_⟩
    exact ends.behind_others (List.cons_ne_nil _ _) [token]
  · rw [if_neg marked] at rest
    rcases termFrom_exact rest with ⟨tokens, steps, body, ends⟩
    exact ⟨token :: tokens, .token next steps, .plain body, ends⟩

theorem termSet_exact : Exact termSet Grammar.SetNode [.colon] :=
  (level_exact term_exact oneTerm_inside).congr fun _ _ => assembled_set.mp

theorem wordPosition_exact : Exact wordPosition Grammar.WordNode [.semicolon, .colon] :=
  (level_exact termSet_exact setNode_inside).congr fun _ _ => assembled_word.mp

theorem phrase_exact : Exact phrase Grammar.PhraseNode [.dollar, .semicolon, .colon] :=
  (level_exact wordPosition_exact wordNode_inside).congr fun _ _ => assembled_phrase.mp

/-! ## Whole queries -/

/-- The tokens derive the query, with the end of the input behind them. -/
def WholeQuery (tokens : List Token) (query : Query) : Prop :=
  Exists fun inner => Exists fun ending =>
    tokens = inner ++ [ending] ∧ Grammar.QueryNode inner query ∧ ending.isEnding = true

theorem query_exact : Exact query WholeQuery [] := by
  intro scanner after item read
  rw [query_eq] at read
  rcases bind_eq_ok.mp read with ⟨whole, between, one, rest⟩
  rcases level_exact phrase_exact phraseNode_inside one with
    ⟨tokens, steps, ⟨first, items, separated, rfl⟩, _⟩
  unfold finish at rest
  rcases bind_eq_ok.mp rest with ⟨ending, behind, next, done⟩
  rw [runOn_next] at next
  by_cases atEnd : ending.isEnding = true
  · rw [if_pos atEnd] at done
    cases done
    have last : Scanner.Steps between [ending] after := .token next (.done rfl)
    refine ⟨tokens ++ [ending], steps.append last,
      ⟨tokens, ending, rfl, Query.queryNode_of_separated separated, atEnd⟩, ?_⟩
    exact .of_last List.getLast?_concat (kind_of_isEnding atEnd)
  · rw [if_neg atEnd] at done
    exact absurd done failAt_ne_ok

theorem query_complete : Complete query WholeQuery [.openParen] := by
  rintro scanner after tokens item ⟨inner, ending, rfl, derived, atEnd⟩ steps _
  rcases steps.split with ⟨middle, inside, last⟩
  rcases last with _ | ⟨read, done⟩
  rcases done with same | _
  have apart : Mark.bar ∉ [.dollar, .semicolon, .colon, .openParen] := by decide
  rcases level_complete phrase_complete apart phraseNode_inside (assembled_query.mpr derived) inside
    (stopsBefore_of_ending read atEnd) with ⟨reached, ran, meets⟩
  refine ⟨_, ?_, same⟩
  rw [query_eq, runOn_bind, ran]
  unfold finish
  simp only [runOn_bind, runOn_next, meets, read, atEnd, if_true]
  rfl

end Parser

/-! ## Levels and their readers -/

inductive Level where
  | term
  | set
  | word
  | phrase
  | query

namespace Level

/-- What a level is read as. -/
def Item : Level -> Type
  | .term => Term
  | .set => TermSet
  | .word => WordPosition
  | .phrase => Phrase
  | .query => Query

variable [Pattern.Engine]

def reader : (level : Level) -> ParseM level.Item
  | .term => Parser.term
  | .set => Parser.termSet
  | .word => Parser.wordPosition
  | .phrase => Parser.phrase
  | .query => Parser.query

/-- The tokens that make up an item of a level. -/
def Derives : (level : Level) -> List Token -> level.Item -> Prop
  | .term => Grammar.OneTerm
  | .set => Grammar.SetNode
  | .word => Grammar.WordNode
  | .phrase => Grammar.PhraseNode
  | .query => Parser.WholeQuery

/-- The marks between the members of a level and of those below it.  A query ends
with its text, and nothing can follow it. -/
def separators : Level -> List Mark
  | .term => []
  | .set => [.colon]
  | .word => [.semicolon, .colon]
  | .phrase => [.dollar, .semicolon, .colon]
  | .query => []

theorem exact (level : Level) : Parser.Exact level.reader level.Derives level.separators := by
  cases level with
  | term => exact Parser.term_exact
  | set => exact Parser.termSet_exact
  | word => exact Parser.wordPosition_exact
  | phrase => exact Parser.phrase_exact
  | query => exact Parser.query_exact

theorem complete (level : Level) :
    Parser.Complete level.reader level.Derives (level.separators ++ [.openParen]) := by
  cases level with
  | term => exact Parser.term_complete
  | set => exact Parser.termSet_complete
  | word => exact Parser.wordPosition_complete
  | phrase => exact Parser.phrase_complete
  | query => exact Parser.query_complete

/-- Read levels one after another with the same scanner, up to the first fault. -/
def readAll : List Level -> Scanner -> List (Sigma Item)
  | [], _ => []
  | level :: levels, scanner =>
    match level.reader.runOn scanner with
    | (.ok item, after) => ⟨level, item⟩ :: readAll levels after
    | (.error _, _) => []

/-- Items that make up a stream from a place on.  Each is derived from the tokens
that stand next, could not be longer, and the next one starts behind it.  There
are fewer items than levels only if nothing of the next level stands there, such
that the token behind it ends it in any case. -/
inductive Consumes (stream : Nat -> Except Fault Token) :
    Nat -> List Level -> List (Sigma Item) -> Prop
  | done {place : Nat} : Consumes stream place [] []
  | fault {place : Nat} {level : Level} {levels : List Level}
      (nothing : forall tokens item, level.Derives tokens item -> Stands stream place tokens ->
        Exists fun mark => mark ∈ level.separators ++ [.openParen] ∧
          ¬ Clear mark (stream (place + tokens.length))) :
      Consumes stream place (level :: levels) []
  | item {place : Nat} {level : Level} {levels : List Level} {tokens : List Token}
      {item : level.Item} {items : List (Sigma Item)} (derived : level.Derives tokens item)
      (stands : Stands stream place tokens)
      (ends : EndsBefore level.separators tokens (stream (place + tokens.length)))
      (later : Consumes stream (place + tokens.length) levels items) :
      Consumes stream place (level :: levels) (⟨level, item⟩ :: items)

/-- A reader fails only where nothing stands that it has to return. -/
theorem nothing_of_fault {stream : Nat -> Except Fault Token} {level : Level}
    {scanner after : Scanner} {place : Nat} {fault : Fault}
    (failed : level.reader.runOn scanner = (.error fault, after))
    (faces : scanner.Faces stream place) (tokens : List Token) (item : level.Item)
    (derived : level.Derives tokens item) (stands : Stands stream place tokens) :
    Exists fun mark => mark ∈ level.separators ++ [.openParen] ∧
      ¬ Clear mark (stream (place + tokens.length)) := by
  apply Classical.byContradiction
  intro every
  have clear : forall mark, mark ∈ level.separators ++ [.openParen] ->
      Clear mark (stream (place + tokens.length)) := by
    intro mark among
    apply Classical.byContradiction
    exact fun blocked => every ⟨mark, among, blocked⟩
  rcases faces.steps stands with ⟨reached, steps⟩
  have behind := (steps.faces faces).2.here
  rcases clear .openParen (List.mem_append_right _ List.mem_cons_self) with ⟨token, found, _⟩
  have stops : Parser.StopsBefore (level.separators ++ [.openParen]) reached := by
    rcases read : reached.next with ⟨result, final⟩
    rw [read, found] at behind
    change result = .ok token at behind
    subst behind
    refine ⟨token, final, read, fun mark among => ?_⟩
    rcases clear mark among with ⟨other, same, unmarked⟩
    rw [found] at same
    cases same
    exact unmarked
  rcases level.complete derived steps stops with ⟨final, ran, _⟩
  rw [failed] at ran
  cases ran

theorem consumes_of_faces {stream : Nat -> Except Fault Token} (levels : List Level)
    {scanner : Scanner} {place : Nat} (faces : scanner.Faces stream place) :
    Consumes stream place levels (readAll levels scanner) := by
  induction levels generalizing scanner place with
  | nil => exact .done
  | cons level levels ih =>
      unfold readAll
      rcases ran : level.reader.runOn scanner with ⟨result, after⟩
      cases result with
      | error fault => exact .fault (nothing_of_fault ran faces)
      | ok item =>
          rcases level.exact ran with ⟨tokens, steps, derived, ends⟩
          rcases steps.faces faces with ⟨stands, behind⟩
          rw [behind.here] at ends
          exact .item derived stands ends (ih behind)

/-- Readers of any levels, one after another, share out the tokens of the text. -/
theorem readAll_consumes (text : String) (levels : List Level) :
    Consumes (Scanner.stream text) 0 levels (readAll levels (.ofText text)) :=
  consumes_of_faces levels (Scanner.faces_ofText text)

end Level
end CorpusQuery
