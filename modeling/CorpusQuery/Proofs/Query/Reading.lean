import CorpusQuery.Proofs.Query.Grammar
import CorpusQuery.Proofs.Token.Stream

namespace CorpusQuery

/-!
# Readers and the grammar

Every level of the reader of queries is compared with its rule of the grammar.
A reader is sound when whatever it returns is derived from the tokens it passed,
and complete when it returns everything that is derived from the tokens ahead,
provided that the token behind them cannot belong to it.  That token is looked
at and taken back by every level in turn, which is why runs are followed up to
scanners with the same next step.

The separator loops are all instances of one level with a separator, a member
and a way to add members, and so are the two statements about them.
-/

namespace ParseM

variable {α β : Type}

theorem runOn_pure (item : α) (scanner : Scanner) :
    ParseM.runOn (pure item) scanner = (.ok item, scanner) :=
  rfl

theorem runOn_bind (reader : ParseM α) (further : α -> ParseM β) (scanner : Scanner) :
    ParseM.runOn (reader >>= further) scanner =
      match reader.runOn scanner with
      | (.ok item, after) => (further item).runOn after
      | (.error fault, after) => (.error fault, after) := by
  change (ExceptT.run (reader >>= further)).run scanner = _
  simp only [ExceptT.run_bind, StateT.run_bind]
  rcases ran : reader.runOn scanner with ⟨result, after⟩
  have same : (ExceptT.run reader).run scanner = (result, after) := ran
  cases result <;> simp only [bind, same] <;> rfl

/-- A sequence succeeds exactly when both of its parts do. -/
theorem bind_eq_ok {reader : ParseM α} {further : α -> ParseM β} {scanner after : Scanner}
    {item : β} :
    ParseM.runOn (reader >>= further) scanner = (.ok item, after) <->
      Exists fun first => Exists fun between =>
        reader.runOn scanner = (.ok first, between) ∧
          (further first).runOn between = (.ok item, after) := by
  rw [runOn_bind]
  rcases ran : reader.runOn scanner with ⟨result, between⟩
  cases result with
  | error fault =>
      constructor
      · intro impossible
        cases impossible
      · rintro ⟨first, other, impossible, _⟩
        cases impossible
  | ok found =>
      constructor
      · intro rest
        exact ⟨found, between, rfl, rest⟩
      · rintro ⟨first, other, same, rest⟩
        cases same
        exact rest

theorem runOn_get (scanner : Scanner) :
    ParseM.runOn (get : ParseM Scanner) scanner = (.ok scanner, scanner) :=
  rfl

end ParseM

namespace Parser

open ParseM

theorem runOn_next (scanner : Scanner) : ParseM.runOn next scanner = scanner.next := by
  unfold next
  rw [runOn_bind, runOn_get]
  rcases ahead : scanner.next with ⟨result, after⟩
  simp only [ahead]
  cases result <;> rfl

theorem runOn_pushBack (scanner : Scanner) :
    ParseM.runOn pushBack scanner = (.ok (), scanner.pushBack) :=
  rfl

theorem runOn_failAt {α : Type} (cause : Cause) (token : Token) (scanner : Scanner) :
    ParseM.runOn (failAt cause token : ParseM α) scanner =
      (.error (faultAt scanner cause token), scanner) :=
  rfl

theorem failAt_ne_ok {α : Type} {cause : Cause} {token : Token} {scanner after : Scanner}
    {item : α} : ParseM.runOn (failAt cause token : ParseM α) scanner ≠ (.ok item, after) := by
  rw [runOn_failAt]
  intro impossible
  cases impossible

theorem buildTerm_eq_ok [Pattern.Engine] {attr : Attribute} {negated : Bool} {token : Token}
    {term : Term} {scanner after : Scanner} :
    (buildTerm attr negated token).runOn scanner = (.ok term, after) <->
      termOfText attr negated token.text = .ok term ∧ after = scanner := by
  unfold buildTerm
  cases built : termOfText attr negated token.text with
  | error cause =>
      constructor
      · intro impossible
        exact absurd impossible failAt_ne_ok
      · rintro ⟨impossible, _⟩
        cases impossible
  | ok found =>
      rw [runOn_pure]
      simp only [Prod.mk.injEq, Except.ok.injEq, @eq_comm _ scanner]

/-! ## Sound and complete readers -/

section Levels

variable {α β : Type}

/-- Whatever the reader returns is derived from the tokens it passed. -/
def Sound (reader : ParseM α) (derives : List Token -> α -> Prop) : Prop :=
  forall ⦃scanner after : Scanner⦄ ⦃item : α⦄, reader.runOn scanner = (.ok item, after) ->
    Exists fun tokens => Scanner.Steps scanner tokens after ∧ derives tokens item

/-- The next token can be read, and it is none of these marks. -/
def StopsBefore (follow : List Mark) (scanner : Scanner) : Prop :=
  Exists fun token => Exists fun after =>
    scanner.next = (.ok token, after) ∧ forall mark, mark ∈ follow -> token.kind ≠ .mark mark

/-- The reader returns whatever is derived from the tokens ahead, as long as
none of the given marks comes behind them, and stops right there. -/
def Complete (reader : ParseM α) (derives : List Token -> α -> Prop) (follow : List Mark) : Prop :=
  forall ⦃scanner after : Scanner⦄ ⦃tokens : List Token⦄ ⦃item : α⦄, derives tokens item ->
    Scanner.Steps scanner tokens after -> StopsBefore follow after ->
      Exists fun reached => reader.runOn scanner = (.ok item, reached) ∧ reached.next = after.next

/-- Derivations use at least one token and never the end of the input. -/
def Inside (derives : List Token -> α -> Prop) : Prop :=
  forall ⦃tokens : List Token⦄ ⦃item : α⦄, derives tokens item ->
    tokens ≠ [] ∧ forall token, token ∈ tokens -> token.isEnding = false

theorem isEnding_of_mark {token : Token} {mark : Mark} (marked : token.kind = .mark mark) :
    token.isEnding = false := by
  unfold Token.isEnding
  rw [marked]
  rfl

theorem isEnding_of_word {token : Token} (isWord : token.kind = .word) :
    token.isEnding = false := by
  unfold Token.isEnding
  rw [isWord]
  rfl

theorem isEnding_of_isText {token : Token} (carries : token.isText = true) :
    token.isEnding = false := by
  rcases token with ⟨kind, text, position⟩
  cases kind with
  | ending => cases carries
  | mark mark => cases carries
  | word => rfl
  | quoted => rfl
  | number => rfl

theorem isMark_iff {token : Token} {mark : Mark} :
    token.isMark mark = true <-> token.kind = .mark mark := by
  simp only [Token.isMark, decide_eq_true_eq]

theorem isMark_of_isEnding {token : Token} (atEnd : token.isEnding = true) (mark : Mark) :
    token.isMark mark = false := by
  rw [Bool.eq_false_iff]
  intro marked
  rw [isEnding_of_mark (isMark_iff.mp marked)] at atEnd
  cases atEnd

theorem isMark_of_isText {token : Token} (carries : token.isText = true) (mark : Mark) :
    token.isMark mark = false := by
  rw [Bool.eq_false_iff]
  intro marked
  rw [Token.isText, isMark_iff.mp marked] at carries
  cases carries

/-! ## Separated members -/

variable {separator : Mark} {member : ParseM α} {derives : List Token -> α -> Prop}
  {add : β -> α -> β} {follow : List Mark}

theorem further_inside (inside : Inside derives) {tokens : List Token} {items : List α}
    (further : Grammar.Further separator derives tokens items) :
    items.length ≤ tokens.length ∧ forall token, token ∈ tokens -> token.isEnding = false := by
  induction further with
  | none => exact ⟨Nat.le_refl _, fun token impossible => absurd impossible List.not_mem_nil⟩
  | more separates first later ih =>
      constructor
      · simp only [List.length_cons, List.length_append]
        omega
      · intro token among
        rcases List.mem_cons.mp among with rfl | among
        · exact isEnding_of_mark separates
        · rcases List.mem_append.mp among with among | among
          · exact (inside first).2 token among
          · exact ih.2 token among

theorem separated_inside (inside : Inside derives) :
    Inside (Grammar.Separated separator derives) := by
  intro tokens items separated
  cases separated with
  | intro first later =>
      refine ⟨fun none => (inside first).1 (List.append_eq_nil_iff.mp none).1, ?_⟩
      intro token among
      rcases List.mem_append.mp among with among | among
      · exact (inside first).2 token among
      · exact (further_inside inside later).2 token among

/-- The loop adds exactly the members that it passed. -/
theorem membersAfter_sound (sound : Sound member derives) (bound : Nat) {whole result : β}
    {scanner after : Scanner}
    (read : (membersAfter separator member add bound whole).runOn scanner = (.ok result, after)) :
    Exists fun tokens => Exists fun items =>
      Scanner.Steps scanner tokens after ∧ Grammar.Further separator derives tokens items ∧
        result = items.foldl add whole := by
  induction bound generalizing whole scanner with
  | zero =>
      cases read
      exact ⟨[], [], .done rfl, .none, rfl⟩
  | succ bound ih =>
      unfold membersAfter at read
      rcases bind_eq_ok.mp read with ⟨token, between, next, rest⟩
      rw [runOn_next] at next
      split at rest
      next marked =>
        rcases bind_eq_ok.mp rest with ⟨item, behind, one, loop⟩
        rcases sound one with ⟨tokens, steps, derived⟩
        rcases ih loop with ⟨others, items, later, further, same⟩
        exact ⟨token :: (tokens ++ others), item :: items, .token next (steps.append later),
          .more (isMark_iff.mp marked) derived further, same⟩
      next other =>
        simp only [runOn_bind, runOn_pushBack, runOn_pure] at rest
        cases rest
        exact ⟨[], [], .done (Scanner.next_pushBack next).symm, .none, rfl⟩

/-- Where further members follow or the whole stops, a member stops. -/
theorem stopsBefore_further (apart : separator ∉ follow) {scanner after : Scanner}
    {tokens : List Token} {items : List α}
    (further : Grammar.Further separator derives tokens items)
    (steps : Scanner.Steps scanner tokens after)
    (stops : StopsBefore (separator :: follow) after) : StopsBefore follow scanner := by
  cases further with
  | none =>
      cases steps with
      | done same =>
          rcases stops with ⟨token, behind, read, others⟩
          exact ⟨token, behind, same.trans read,
            fun mark among => others mark (List.mem_cons_of_mem _ among)⟩
  | more separates first later =>
      cases steps with
      | token read _ =>
          refine ⟨_, _, read, fun mark among same => apart ?_⟩
          rw [separates] at same
          cases same
          exact among

/-- The loop passes all further members when its bound exceeds their number. -/
theorem membersAfter_complete (complete : Complete member derives follow)
    (apart : separator ∉ follow) {scanner after : Scanner} {tokens : List Token} {items : List α}
    (further : Grammar.Further separator derives tokens items)
    (steps : Scanner.Steps scanner tokens after) (stops : StopsBefore (separator :: follow) after)
    (bound : Nat) (enough : items.length < bound) (whole : β) :
    Exists fun reached =>
      (membersAfter separator member add bound whole).runOn scanner =
        (.ok (items.foldl add whole), reached) ∧ reached.next = after.next := by
  induction further generalizing scanner bound whole with
  | none =>
      cases bound with
      | zero => cases enough
      | succ bound =>
          rcases steps with same | _
          rcases stops with ⟨token, behind, read, others⟩
          -- The token that ends the loop is handed back, so the level above reads it again.
          have unmarked : ¬ token.isMark separator = true := fun marked =>
            others separator List.mem_cons_self (isMark_iff.mp marked)
          refine ⟨behind.pushBack, ?_, Scanner.next_pushBack read⟩
          unfold membersAfter
          rw [runOn_bind, runOn_next, same, read]
          simp only [unmarked]
          rfl
  | @more mark tokens rest item items separates first later ih =>
      cases bound with
      | zero => cases enough
      | succ bound =>
          rcases steps with _ | ⟨read, remaining⟩
          rcases remaining.split with ⟨middle, one, others⟩
          rcases complete first one (stopsBefore_further apart later others stops) with
            ⟨reached, ran, same⟩
          -- The member may stop with a token handed back, where only the next read is the same.
          rcases ih (others.of_next same) bound (Nat.lt_of_succ_lt_succ enough)
            (add whole item) with
            ⟨final, loop, same'⟩
          refine ⟨final, ?_, same'⟩
          unfold membersAfter
          rw [runOn_bind, runOn_next, read]
          simp only [isMark_iff.mpr separates, if_true]
          rw [runOn_bind, ran]
          exact loop

/-- A level of the reader: a member, and further ones behind separators. -/
def level (separator : Mark) (member : ParseM α) (start : α -> β) (add : β -> α -> β) :
    ParseM β := do
  let first ← member
  membersAfter separator member add (tokensLeft (← get)) (start first)

/-- What a level makes of its members. -/
def Assembled (separator : Mark) (derives : List Token -> α -> Prop) (start : α -> β)
    (add : β -> α -> β) (tokens : List Token) (whole : β) : Prop :=
  Exists fun first => Exists fun items =>
    Grammar.Separated separator derives tokens (first :: items) ∧
      whole = items.foldl add (start first)

theorem level_sound {start : α -> β} (sound : Sound member derives) :
    Sound (level separator member start add) (Assembled separator derives start add) := by
  intro scanner after whole read
  unfold level at read
  rcases bind_eq_ok.mp read with ⟨first, between, one, rest⟩
  rw [runOn_bind, runOn_get] at rest
  rcases sound one with ⟨tokens, steps, derived⟩
  rcases membersAfter_sound sound _ rest with ⟨others, items, later, further, same⟩
  exact ⟨tokens ++ others, steps.append later, first, items, .intro derived further, same⟩

theorem level_complete {start : α -> β} (complete : Complete member derives follow)
    (apart : separator ∉ follow) (inside : Inside derives) :
    Complete (level separator member start add) (Assembled separator derives start add)
      (separator :: follow) := by
  intro scanner after tokens whole assembled steps stops
  rcases assembled with ⟨first, items, separated, rfl⟩
  rcases separated with ⟨derived, further⟩
  rcases steps.split with ⟨middle, one, others⟩
  rcases complete derived one (stopsBefore_further apart further others stops) with
    ⟨reached, ran, same⟩
  have later := others.of_next same
  have enough : items.length < tokensLeft reached := by
    have counts := further_inside inside further
    have few := later.length_le counts.2
    have short := reached.left_le
    unfold tokensLeft
    omega
  rcases membersAfter_complete complete apart further later stops _ enough (start first) with
    ⟨final, loop, same'⟩
  refine ⟨final, ?_, same'⟩
  unfold level
  rw [runOn_bind, ran]
  simp only [runOn_bind, runOn_get]
  exact loop

theorem Sound.congr {reader : ParseM α} {other : List Token -> α -> Prop}
    (sound : Sound reader derives)
    (same : forall ⦃tokens item⦄, derives tokens item -> other tokens item) :
    Sound reader other := by
  intro scanner after item read
  rcases sound read with ⟨tokens, steps, derived⟩
  exact ⟨tokens, steps, same derived⟩

theorem Complete.congr {reader : ParseM α} {other : List Token -> α -> Prop}
    {follow : List Mark} (complete : Complete reader derives follow)
    (same : forall ⦃tokens item⦄, other tokens item -> derives tokens item) :
    Complete reader other follow := by
  intro scanner after tokens item derived
  exact complete (same derived)

theorem Inside.node {κ : Type} {shown : β -> κ} {kept : α -> κ} (inside : Inside derives) :
    Inside fun tokens node => Exists fun item => derives tokens item ∧ shown node = kept item := by
  rintro tokens node ⟨item, derived, _⟩
  exact inside derived

theorem stopsBefore_of_ending {follow : List Mark} {scanner after : Scanner} {ending : Token}
    (read : scanner.next = (.ok ending, after)) (atEnd : ending.isEnding = true) :
    StopsBefore follow scanner := by
  refine ⟨ending, after, read, fun mark _ marked => ?_⟩
  rw [isEnding_of_mark marked] at atEnd
  cases atEnd

end Levels

/-! ## Terms -/

variable [Pattern.Engine]

theorem payload_sound (attr : Attribute) (negated : Bool) :
    Sound (payload attr negated) (Grammar.Payload attr negated) := by
  intro scanner after term read
  unfold payload at read
  rcases bind_eq_ok.mp read with ⟨token, between, next, rest⟩
  rw [runOn_next] at next
  split at rest
  next closed =>
    rcases buildTerm_eq_ok.mp rest with ⟨valid, rfl⟩
    exact ⟨[token], .token next (.done rfl), .empty (isMark_iff.mp closed) valid⟩
  next =>
    split at rest
    next carries =>
      rcases bind_eq_ok.mp rest with ⟨built, same, build, closing⟩
      rcases buildTerm_eq_ok.mp build with ⟨valid, rfl⟩
      rcases bind_eq_ok.mp closing with ⟨close, behind, next', done⟩
      rw [runOn_next] at next'
      split at done
      next closed =>
        cases done
        exact ⟨[token, close], .token next (.token next' (.done rfl)),
          .text carries valid (isMark_iff.mp closed)⟩
      next =>
        split at done
        · exact absurd done failAt_ne_ok
        · exact absurd done failAt_ne_ok
    next =>
      split at rest
      · exact absurd rest failAt_ne_ok
      · exact absurd rest failAt_ne_ok

theorem payload_complete (attr : Attribute) (negated : Bool) :
    Complete (payload attr negated) (Grammar.Payload attr negated) [] := by
  intro scanner after tokens term derived steps stops
  cases derived with
  | empty closed valid =>
      rcases steps with _ | ⟨read, last⟩
      rcases last with same | _
      refine ⟨_, ?_, same⟩
      unfold payload
      rw [runOn_bind, runOn_next, read]
      simp only [isMark_iff.mpr closed, if_true]
      exact buildTerm_eq_ok.mpr ⟨valid, rfl⟩
  | @text text closing term carries valid closed =>
      rcases steps with _ | ⟨read, last⟩
      rcases last with _ | ⟨read', last⟩
      rcases last with same | _
      refine ⟨_, ?_, same⟩
      unfold payload
      rw [runOn_bind, runOn_next, read]
      simp only [isMark_of_isText carries, carries, if_true]
      rw [if_neg (by decide), runOn_bind, buildTerm_eq_ok.mpr ⟨valid, rfl⟩]
      simp only
      rw [runOn_bind, runOn_next, read']
      simp only [isMark_iff.mpr closed, if_true]
      rfl

/-- A term is read from its first token on, the bang being passed. -/
theorem termFrom_sound {negated : Bool} {token : Token} {scanner after : Scanner} {term : Term}
    (read : (termFrom negated token).runOn scanner = (.ok term, after)) :
    Exists fun tokens =>
      Scanner.Steps scanner tokens after ∧ Grammar.Plain negated (token :: tokens) term := by
  unfold termFrom at read
  split at read
  next isWord =>
    rcases bind_eq_ok.mp read with ⟨behind, between, next, rest⟩
    rw [runOn_next] at next
    split at rest
    next opened =>
      split at rest
      next attr found =>
        rcases payload_sound attr negated rest with ⟨tokens, steps, inside⟩
        exact ⟨behind :: tokens, .token next steps, .named isWord
          (Attribute.ofMnemonic?_eq_some_iff.mp found) (isMark_iff.mp opened) inside⟩
      next => exact absurd rest failAt_ne_ok
    next =>
      simp only [runOn_bind, runOn_pushBack] at rest
      rcases buildTerm_eq_ok.mp rest with ⟨valid, rfl⟩
      exact ⟨[], .done (Scanner.next_pushBack next).symm, .bare isWord valid⟩
  next =>
    rw [runOn_bind, runOn_get] at read
    simp only at read
    split at read
    · exact absurd read failAt_ne_ok
    · exact absurd read failAt_ne_ok
  next => exact absurd read failAt_ne_ok

theorem termFrom_complete {negated : Bool} {token : Token} {tokens : List Token}
    {scanner after : Scanner} {term : Term} (derived : Grammar.Plain negated (token :: tokens) term)
    (steps : Scanner.Steps scanner tokens after) (stops : StopsBefore [.openParen] after) :
    Exists fun reached =>
      (termFrom negated token).runOn scanner = (.ok term, reached) ∧ reached.next = after.next := by
  cases derived with
  | @named name opening attr payload term isWord spelled opened inside =>
      rcases steps with _ | ⟨read, later⟩
      rcases stops with ⟨follower, behind, next, _⟩
      rcases payload_complete attr negated inside later
        ⟨follower, behind, next, fun mark impossible => absurd impossible List.not_mem_nil⟩ with
        ⟨reached, ran, same⟩
      refine ⟨reached, ?_, same⟩
      unfold termFrom
      simp only [isWord]
      rw [runOn_bind, runOn_next, read]
      simp only [isMark_iff.mpr opened, if_true, Attribute.ofMnemonic?_eq_some_iff.mpr spelled]
      exact ran
  | bare isWord valid =>
      rcases steps with same | _
      rcases stops with ⟨follower, behind, next, apart⟩
      have unopened : ¬ follower.isMark .openParen = true := fun marked =>
        apart .openParen List.mem_cons_self (isMark_iff.mp marked)
      refine ⟨behind.pushBack, ?_, Scanner.next_pushBack next⟩
      unfold termFrom
      simp only [isWord]
      rw [runOn_bind, runOn_next, same, next]
      simp only [unopened]
      exact buildTerm_eq_ok.mpr ⟨valid, rfl⟩

theorem plain_head {negated : Bool} {tokens : List Token} {term : Term}
    (derived : Grammar.Plain negated tokens term) :
    Exists fun token => Exists fun others => tokens = token :: others ∧ token.kind = .word := by
  cases derived with
  | named isWord _ _ _ => exact ⟨_, _, rfl, isWord⟩
  | bare isWord _ => exact ⟨_, _, rfl, isWord⟩

theorem term_sound : Sound term Grammar.OneTerm := by
  intro scanner after result read
  unfold term at read
  rcases bind_eq_ok.mp read with ⟨token, between, next, rest⟩
  rw [runOn_next] at next
  split at rest
  next marked =>
    rcases bind_eq_ok.mp rest with ⟨name, behind, next', rest⟩
    rw [runOn_next] at next'
    rcases termFrom_sound rest with ⟨tokens, steps, body⟩
    exact ⟨token :: name :: tokens, .token next (.token next' steps),
      .negated (isMark_iff.mp marked) body⟩
  next =>
    rcases termFrom_sound rest with ⟨tokens, steps, body⟩
    exact ⟨token :: tokens, .token next steps, .plain body⟩

theorem term_complete : Complete term Grammar.OneTerm [.openParen] := by
  intro scanner after tokens result derived steps stops
  cases derived with
  | plain body =>
      rcases plain_head body with ⟨token, others, rfl, isWord⟩
      rcases steps with _ | ⟨read, later⟩
      rcases termFrom_complete body later stops with ⟨reached, ran, same⟩
      have unmarked : ¬ token.isMark .bang = true := by
        rw [isMark_iff, isWord]
        intro impossible
        cases impossible
      refine ⟨reached, ?_, same⟩
      unfold term
      rw [runOn_bind, runOn_next, read]
      simp only [unmarked]
      exact ran
  | negated marked body =>
      rcases plain_head body with ⟨token, others, rfl, isWord⟩
      rcases steps with _ | ⟨read, later⟩
      rcases later with _ | ⟨read', later⟩
      rcases termFrom_complete body later stops with ⟨reached, ran, same⟩
      refine ⟨reached, ?_, same⟩
      unfold term
      rw [runOn_bind, runOn_next, read]
      simp only [isMark_iff.mpr marked, if_true]
      rw [runOn_bind, runOn_next, read']
      exact ran

theorem oneTerm_inside : Inside Grammar.OneTerm := by
  have payloads : forall {attr negated tokens term}, Grammar.Payload attr negated tokens term ->
      forall token, token ∈ tokens -> token.isEnding = false := by
    intro attr negated tokens term derived
    cases derived with
    | empty closed valid => simpa using isEnding_of_mark closed
    | text carries valid closed => simpa using ⟨isEnding_of_isText carries, isEnding_of_mark closed⟩
  have bodies : forall {negated tokens term}, Grammar.Plain negated tokens term ->
      forall token, token ∈ tokens -> token.isEnding = false := by
    intro negated tokens term derived
    cases derived with
    | named isWord spelled opened inside =>
        simpa using ⟨isEnding_of_word isWord, isEnding_of_mark opened, payloads inside⟩
    | bare isWord valid => simpa using isEnding_of_word isWord
  intro tokens term derived
  cases derived with
  | plain body =>
      rcases plain_head body with ⟨token, others, rfl, _⟩
      exact ⟨List.cons_ne_nil _ _, bodies body⟩
  | negated marked body =>
      exact ⟨List.cons_ne_nil _ _, List.forall_mem_cons.mpr ⟨isEnding_of_mark marked, bodies body⟩⟩

/-! ## Sets, words and phrases -/

theorem assembled_set {tokens : List Token} {set : TermSet} :
    Assembled .colon Grammar.OneTerm (fun first => TermSet.mk first []) TermSet.push tokens set <->
      Grammar.SetNode tokens set := by
  constructor
  · rintro ⟨first, items, separated, rfl⟩
    exact ⟨first :: items, separated, TermSet.terms_foldl first items⟩
  · rintro ⟨terms, separated, same⟩
    cases terms with
    | nil => exact False.elim (separated.ne_nil rfl)
    | cons first items =>
        exact ⟨first, items, separated,
          TermSet.terms_injective (same.trans (TermSet.terms_foldl first items).symm)⟩

theorem assembled_word {tokens : List Token} {word : WordPosition} :
    Assembled .semicolon Grammar.SetNode (fun first => WordPosition.mk first []) WordPosition.push
      tokens word <-> Grammar.WordNode tokens word := by
  constructor
  · rintro ⟨first, items, separated, rfl⟩
    rcases separated.view with ⟨sets, derived, same⟩
    refine ⟨sets, derived, ?_⟩
    rw [WordPosition.tree_foldl, same, Grammar.collapseWord]
  · rintro ⟨sets, derived, same⟩
    rcases derived.lift (fun _ _ => Grammar.exists_set) with ⟨nodes, shown, separated⟩
    cases nodes with
    | nil => exact False.elim (separated.ne_nil rfl)
    | cons first items =>
        refine ⟨first, items, separated, WordPosition.tree_injective ?_⟩
        rw [same, WordPosition.tree_foldl, shown, Grammar.collapseWord]

theorem assembled_phrase {tokens : List Token} {phrase : Phrase} :
    Assembled .dollar Grammar.WordNode (fun first => Phrase.mk first []) Phrase.push tokens
      phrase <->
      Grammar.PhraseNode tokens phrase := by
  constructor
  · rintro ⟨first, items, separated, rfl⟩
    rcases separated.view with ⟨words, derived, same⟩
    exact ⟨words, derived, (Phrase.tree_foldl first items).trans same⟩
  · rintro ⟨words, derived, same⟩
    rcases derived.lift (fun _ _ => Grammar.exists_word) with ⟨nodes, shown, separated⟩
    cases nodes with
    | nil => exact False.elim (separated.ne_nil rfl)
    | cons first items =>
        refine ⟨first, items, separated, Phrase.tree_injective ?_⟩
        rw [same, Phrase.tree_foldl, shown]

theorem termSet_sound : Sound termSet Grammar.SetNode :=
  (level_sound term_sound).congr fun _ _ => assembled_set.mp

theorem termSet_complete : Complete termSet Grammar.SetNode [.colon, .openParen] :=
  (level_complete term_complete (by decide) oneTerm_inside).congr fun _ _ => assembled_set.mpr

theorem setNode_inside : Inside Grammar.SetNode :=
  (separated_inside oneTerm_inside).node

theorem wordPosition_sound : Sound wordPosition Grammar.WordNode :=
  (level_sound termSet_sound).congr fun _ _ => assembled_word.mp

theorem wordPosition_complete :
    Complete wordPosition Grammar.WordNode [.semicolon, .colon, .openParen] :=
  (level_complete termSet_complete (by decide) setNode_inside).congr fun _ _ => assembled_word.mpr

theorem wordNode_inside : Inside Grammar.WordNode :=
  (separated_inside (separated_inside oneTerm_inside)).node

theorem phrase_sound : Sound phrase Grammar.PhraseNode :=
  (level_sound wordPosition_sound).congr fun _ _ => assembled_phrase.mp

theorem phrase_complete :
    Complete phrase Grammar.PhraseNode [.dollar, .semicolon, .colon, .openParen] :=
  (level_complete wordPosition_complete (by decide) wordNode_inside).congr fun _ _ =>
    assembled_phrase.mpr

theorem phraseNode_inside : Inside Grammar.PhraseNode :=
  (separated_inside (separated_inside (separated_inside oneTerm_inside))).node

/-! ## Whole queries -/

/-- The last loop stops at the end of the input only, since its bound is never
used up. -/
theorem phrasesAfter_sound (bound : Nat) {whole result : Query} {scanner after : Scanner}
    (enough : scanner.left < bound)
    (read : (phrasesAfter bound whole).runOn scanner = (.ok result, after)) :
    Exists fun tokens => Exists fun ending => Exists fun phrases =>
      scanner.Yields tokens ending ∧ Grammar.Further .bar Grammar.PhraseNode tokens phrases ∧
        result = phrases.foldl Query.push whole := by
  induction bound generalizing whole scanner with
  | zero => cases enough
  | succ bound ih =>
      unfold phrasesAfter at read
      rcases bind_eq_ok.mp read with ⟨token, between, next, rest⟩
      rw [runOn_next] at next
      split at rest
      next marked =>
        rcases bind_eq_ok.mp rest with ⟨item, behind, one, loop⟩
        rcases phrase_sound one with ⟨tokens, steps, derived⟩
        have within := phraseNode_inside derived
        -- A round takes characters away, so the bound outlives the text.
        have shrinks : behind.left < scanner.left :=
          Scanner.Steps.left_lt next steps within.1 within.2
        rcases ih (by omega) loop with ⟨others, ending, phrases, yields, further, same⟩
        have bar := isMark_iff.mp marked
        exact ⟨token :: (tokens ++ others), ending, item :: phrases,
          .token next (isEnding_of_mark bar) (.prepend steps within.2 yields),
          .more bar derived further, same⟩
      next =>
        split at rest
        next atEnd =>
          cases rest
          exact ⟨[], token, [], .ending next atEnd, .none, rfl⟩
        next => exact absurd rest failAt_ne_ok

theorem phrasesAfter_complete {scanner last after : Scanner} {tokens : List Token}
    {phrases : List Phrase} {ending : Token}
    (further : Grammar.Further .bar Grammar.PhraseNode tokens phrases)
    (steps : Scanner.Steps scanner tokens last) (read : last.next = (.ok ending, after))
    (atEnd : ending.isEnding = true) (bound : Nat) (enough : phrases.length < bound)
    (whole : Query) :
    Exists fun reached =>
      (phrasesAfter bound whole).runOn scanner =
        (.ok (phrases.foldl Query.push whole), reached) := by
  induction further generalizing scanner bound whole with
  | none =>
      cases bound with
      | zero => cases enough
      | succ bound =>
          rcases steps with same | _
          refine ⟨after, ?_⟩
          unfold phrasesAfter
          rw [runOn_bind, runOn_next, same, read]
          simp only [isMark_of_isEnding atEnd, atEnd, if_true]
          rfl
  | @more mark tokens rest item items separates first later ih =>
      cases bound with
      | zero => cases enough
      | succ bound =>
          rcases steps with _ | ⟨next, remaining⟩
          rcases remaining.split with ⟨middle, one, others⟩
          have stops : StopsBefore [.dollar, .semicolon, .colon, .openParen] middle :=
            stopsBefore_further (by decide) later others (stopsBefore_of_ending read atEnd)
          rcases phrase_complete first one stops with ⟨reached, ran, same⟩
          rcases ih (others.of_next same) bound (Nat.lt_of_succ_lt_succ enough)
            (whole.push item) with
            ⟨final, loop⟩
          refine ⟨final, ?_⟩
          unfold phrasesAfter
          rw [runOn_bind, runOn_next, next]
          simp only [isMark_iff.mpr separates, if_true]
          rw [runOn_bind, ran]
          exact loop

end Parser

namespace Query

open ParseM CorpusQuery.Parser

variable [Pattern.Engine]

/-- Phrases that are read one after another make a query. -/
theorem queryNode_of_separated {tokens : List Token} {first : Phrase} {phrases : List Phrase}
    (separated : Grammar.Separated .bar Grammar.PhraseNode tokens (first :: phrases)) :
    Grammar.QueryNode tokens (phrases.foldl Query.push ⟨first, []⟩) := by
  rcases separated.view with ⟨tree, whole, same⟩
  exact ⟨tree, whole, (Query.tree_foldl first phrases).trans same⟩

/-- A query that is read is derived from all tokens of the text. -/
theorem derived_of_parse {text : String} {query : Query} (accepted : parse text = .ok query) :
    Exists fun tokens => Exists fun ending =>
      Scanner.Yields (.ofText text) tokens ending ∧ Grammar.QueryNode tokens query := by
  unfold parse at accepted
  rcases ran : Parser.query.runOn (.ofText text) with ⟨result, after⟩
  rw [ran] at accepted
  cases accepted
  unfold Parser.query at ran
  rcases bind_eq_ok.mp ran with ⟨first, between, one, rest⟩
  rw [runOn_bind, runOn_get] at rest
  rcases phrase_sound one with ⟨tokens, steps, derived⟩
  have enough : between.left < tokensLeft between := by
    have short := between.left_le
    unfold tokensLeft
    omega
  rcases phrasesAfter_sound _ enough rest with ⟨others, ending, phrases, yields, further, rfl⟩
  exact ⟨tokens ++ others, ending, .prepend steps (phraseNode_inside derived).2 yields,
    queryNode_of_separated (.intro derived further)⟩

/-- A query that is derived from all tokens of the text is read. -/
theorem parse_of_derived {text : String} {query : Query} {tokens : List Token} {ending : Token}
    (yields : Scanner.Yields (.ofText text) tokens ending)
    (derived : Grammar.QueryNode tokens query) :
    parse text = .ok query := by
  rcases derived with ⟨tree, whole, same⟩
  rcases Scanner.yields_iff.mp yields with ⟨_, last, after, steps, read, atEnd⟩
  rcases whole.lift (fun _ _ => Grammar.exists_phrase) with ⟨nodes, shown, separated⟩
  cases separated with
  | @intro firstTokens others first items one further =>
      rcases steps.split with ⟨middle, start, remaining⟩
      have stops : StopsBefore [.dollar, .semicolon, .colon, .openParen] middle :=
        stopsBefore_further (by decide) further remaining (stopsBefore_of_ending read atEnd)
      rcases phrase_complete one start stops with ⟨reached, ran, meets⟩
      have later := remaining.of_next meets
      have enough : items.length < tokensLeft reached := by
        have counts := further_inside phraseNode_inside further
        have few := later.length_le counts.2
        have short := reached.left_le
        unfold tokensLeft
        omega
      rcases phrasesAfter_complete further later read atEnd _ enough ⟨first, []⟩ with ⟨final, loop⟩
      have result : query = items.foldl Query.push ⟨first, []⟩ := by
        apply Query.tree_injective
        rw [same, Query.tree_foldl, shown, Grammar.collapse]
      unfold parse Parser.query
      rw [runOn_bind, ran]
      simp only [runOn_bind, runOn_get]
      rw [loop, result]

/-- A text is read as a query exactly when a scanner gets through it and its
tokens derive a tree from the grammar that collapses to the query. -/
theorem parse_eq_ok_iff (text : String) (query : Query) :
    parse text = .ok query <->
      Exists fun tokens => Exists fun ending => Exists fun tree =>
        Scanner.Yields (.ofText text) tokens ending ∧ Grammar.OneQuery tokens tree ∧
          query.tree = Grammar.collapse tree := by
  constructor
  · intro accepted
    rcases derived_of_parse accepted with ⟨tokens, ending, yields, tree, derived, same⟩
    exact ⟨tokens, ending, tree, yields, derived, same⟩
  · rintro ⟨tokens, ending, tree, yields, derived, same⟩
    exact parse_of_derived yields ⟨tree, derived, same⟩

end Query
end CorpusQuery
