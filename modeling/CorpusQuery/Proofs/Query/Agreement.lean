import CorpusQuery.Proofs.Query.Completion

namespace CorpusQuery

/-!
# Reading two texts side by side

Two scanners can hand out the same tokens at different places, because one text
stands inside the other.  A reader then does the same with both: it returns the
same item, or it meets faults that differ in their places only.

What "the same" means is a parameter here.  A `Pairing` gives the relations
between scanners, places and faults and shows that one step of two scanners keeps
them.  That every reader keeps them follows once for all pairings, level by level.

The bounds of the separator loops would get in the way, since they are taken from
the lengths of the two texts.  They are removed first: a level is its first member
and a loop that goes on as long as separators come, and a query is such a level
with the end of the text behind it.
-/

namespace Parser

open ParseM

/-! ## Loops without bounds -/

section Loops

variable {α β : Type} {separator : Mark} {member : ParseM α} {derives : List Token -> α -> Prop}
  {add : β -> α -> β}

theorem left_lt_tokensLeft (scanner : Scanner) : scanner.left < tokensLeft scanner := by
  have short := scanner.left_le
  unfold tokensLeft
  omega

/-- Behind a token, a member takes characters away. -/
theorem left_lt_of_member (sound : Sound member derives) (inside : Inside derives)
    {scanner between behind : Scanner} {token : Token} {item : α}
    (read : scanner.next = (.ok token, between))
    (one : member.runOn between = (.ok item, behind)) : behind.left < scanner.left := by
  rcases sound one with ⟨tokens, steps, derived⟩
  exact Scanner.Steps.left_lt read steps (inside derived).1 (inside derived).2

/-- The bound of a loop does not matter once it exceeds the characters left. -/
theorem membersAfter_bound (sound : Sound member derives) (inside : Inside derives) (bound : Nat)
    {other : Nat} {scanner : Scanner} (enough : scanner.left < bound)
    (enough' : scanner.left < other)
    (whole : β) :
    (membersAfter separator member add bound whole).runOn scanner =
      (membersAfter separator member add other whole).runOn scanner := by
  induction bound generalizing other scanner whole with
  | zero => cases enough
  | succ bound ih =>
      cases other with
      | zero => cases enough'
      | succ other =>
          unfold membersAfter
          rw [runOn_bind, runOn_bind, runOn_next]
          rcases read : scanner.next with ⟨result, between⟩
          cases result with
          | error fault => rfl
          | ok token =>
              simp only
              split
              · rw [runOn_bind, runOn_bind]
                rcases one : member.runOn between with ⟨result, behind⟩
                cases result with
                | error fault => rfl
                | ok item =>
                    have shrinks := left_lt_of_member sound inside read one
                    exact ih (by omega) (by omega) (add whole item)
              · rfl

/-- The separator loop, with a bound that is enough where it starts. -/
def loop (separator : Mark) (member : ParseM α) (add : β -> α -> β) (whole : β) : ParseM β := do
  membersAfter separator member add (tokensLeft (← get)) whole

theorem level_eq (start : α -> β) :
    level separator member start add =
      member >>= fun first => loop separator member add (start first) :=
  rfl

theorem membersAfter_eq_loop (sound : Sound member derives) (inside : Inside derives) {bound : Nat}
    {scanner : Scanner} (enough : scanner.left < bound) (whole : β) :
    (membersAfter separator member add bound whole).runOn scanner =
      (loop separator member add whole).runOn scanner := by
  unfold loop
  rw [runOn_bind, runOn_get]
  exact membersAfter_bound sound inside bound enough (left_lt_tokensLeft scanner) whole

/-- At a separator the loop reads a member and goes on. -/
theorem loop_separator (sound : Sound member derives) (inside : Inside derives)
    {scanner between : Scanner} {mark : Token} (read : scanner.next = (.ok mark, between))
    (separates : mark.kind = .mark separator) (whole : β) :
    (loop separator member add whole).runOn scanner =
      ParseM.runOn (member >>= fun item => loop separator member add (add whole item)) between := by
  have enough := left_lt_tokensLeft scanner
  rw [<- membersAfter_eq_loop sound inside (Nat.lt_succ_of_lt enough), membersAfter, runOn_bind,
    runOn_next, read]
  simp only [isMark_iff.mpr separates, if_true]
  rw [runOn_bind, runOn_bind]
  rcases one : member.runOn between with ⟨result, behind⟩
  cases result with
  | error fault => rfl
  | ok item =>
      have shrinks := left_lt_of_member sound inside read one
      exact membersAfter_eq_loop sound inside (Nat.lt_trans shrinks enough) (add whole item)

/-- Where further members or something behind them follow, a member stops. -/
theorem stopsBefore_members {follow : List Mark} (apart : separator ∉ follow)
    {scanner after : Scanner} {tokens : List Token} {items : List α}
    (further : Grammar.Further separator derives tokens items)
    (steps : Scanner.Steps scanner tokens after) (stops : StopsBefore follow after) :
    StopsBefore follow scanner := by
  cases further with
  | none =>
      rcases steps with same | _
      rcases stops with ⟨token, behind, read, marks⟩
      exact ⟨token, behind, same.trans read, marks⟩
  | more separates first later =>
      rcases steps with _ | ⟨read, _⟩
      refine ⟨_, _, read, fun mark among same => apart ?_⟩
      rw [separates] at same
      cases same
      exact among

/-- The loop passes further members and goes on behind them. -/
theorem loop_further (sound : Sound member derives) (inside : Inside derives) {follow : List Mark}
    (complete : Complete member derives follow) (apart : separator ∉ follow)
    {scanner after : Scanner} {tokens : List Token} {items : List α}
    (further : Grammar.Further separator derives tokens items)
    (steps : Scanner.Steps scanner tokens after) (stops : StopsBefore follow after) (whole : β) :
    Exists fun reached => reached.next = after.next ∧
      (loop separator member add whole).runOn scanner =
        (loop separator member add (items.foldl add whole)).runOn reached := by
  induction further generalizing scanner whole with
  | none =>
      rcases steps with same | _
      exact ⟨scanner, same, rfl⟩
  | @more mark tokens rest item items separates first later ih =>
      rcases steps with _ | ⟨read, remaining⟩
      rcases remaining.split with ⟨middle, one, others⟩
      rcases complete first one (stopsBefore_members apart later others stops) with
        ⟨reached, ran, same⟩
      rcases ih (others.of_next same) (add whole item) with ⟨final, meets, goesOn⟩
      refine ⟨final, meets, ?_⟩
      rw [loop_separator sound inside read separates, runOn_bind, ran]
      exact goesOn

/-- A level passes its members and goes on with its loop behind them. -/
theorem level_further (sound : Sound member derives) (inside : Inside derives) {follow : List Mark}
    (complete : Complete member derives follow) (apart : separator ∉ follow) (start : α -> β)
    {scanner after : Scanner} {tokens : List Token} {first : α} {items : List α}
    (separated : Grammar.Separated separator derives tokens (first :: items))
    (steps : Scanner.Steps scanner tokens after) (stops : StopsBefore follow after) :
    Exists fun reached => reached.next = after.next ∧
      (level separator member start add).runOn scanner =
        (loop separator member add (items.foldl add (start first))).runOn reached := by
  rcases separated with ⟨derived, further⟩
  rcases steps.split with ⟨middle, one, others⟩
  rcases complete derived one (stopsBefore_members apart further others stops) with
    ⟨reached, ran, same⟩
  rcases loop_further sound inside complete apart further (others.of_next same) stops
    (start first) with ⟨final, meets, goesOn⟩
  refine ⟨final, meets, ?_⟩
  rw [level_eq, runOn_bind, ran]
  exact goesOn

end Loops

/-! ## A query as a level -/

/-- Insist on the end of the input. -/
def finish (whole : Query) : ParseM Query := do
  let token ← next
  if token.isEnding then return whole else failAt .badElement token

variable [Pattern.Engine]

theorem phrasesAfter_eq (bound : Nat) {scanner : Scanner} (enough : scanner.left < bound)
    (whole : Query) :
    (phrasesAfter bound whole).runOn scanner =
      ParseM.runOn (membersAfter .bar phrase Query.push bound whole >>= finish) scanner := by
  induction bound generalizing scanner whole with
  | zero => cases enough
  | succ bound ih =>
      unfold phrasesAfter membersAfter
      rw [runOn_bind, runOn_bind, runOn_bind, runOn_next]
      rcases read : scanner.next with ⟨result, between⟩
      cases result with
      | error fault => rfl
      | ok token =>
          simp only
          split
          · rw [runOn_bind, runOn_bind]
            rcases one : phrase.runOn between with ⟨result, behind⟩
            cases result with
            | error fault => rfl
            | ok item =>
                have shrinks := left_lt_of_member phrase_sound phraseNode_inside read one
                simp only
                rw [ih (by omega), runOn_bind]
          · -- The token that ends the loop is handed out once more.
            have again := (Scanner.next_pushBack read).trans read
            rw [runOn_bind, runOn_pushBack]
            simp only [runOn_pure]
            unfold finish
            rw [runOn_bind, runOn_next, again]

theorem query_eq (scanner : Scanner) :
    query.runOn scanner =
      ParseM.runOn (level .bar phrase (fun first => Query.mk first []) Query.push >>= finish)
        scanner := by
  unfold query level
  rw [runOn_bind, runOn_bind, runOn_bind]
  rcases one : phrase.runOn scanner with ⟨result, between⟩
  cases result with
  | error fault => rfl
  | ok first =>
      simp only [runOn_bind, runOn_get]
      rw [phrasesAfter_eq _ (left_lt_tokensLeft between), runOn_bind]

theorem assembled_query {tokens : List Token} {query : Query} :
    Assembled .bar Grammar.PhraseNode (fun first => Query.mk first []) Query.push tokens query <->
      Grammar.QueryNode tokens query := by
  constructor
  · rintro ⟨first, items, separated, rfl⟩
    exact Query.queryNode_of_separated separated
  · rintro ⟨tree, derived, same⟩
    rcases derived.lift (fun _ _ => Grammar.exists_phrase) with ⟨nodes, shown, separated⟩
    cases nodes with
    | nil => exact False.elim (separated.ne_nil rfl)
    | cons first items =>
        refine ⟨first, items, separated, Query.tree_injective ?_⟩
        rw [same, Query.tree_foldl, shown, Grammar.collapse]

end Parser

/-! ## Pairings -/

/-- What two scanners, two places and two faults have in common. -/
structure Likeness where
  scanners : Scanner -> Scanner -> Prop
  places : Nat -> Nat -> Prop
  faults : Fault -> Fault -> Prop

namespace Likeness

/-- Two scanners handed out tokens that differ in their places only.  They can be
followed further, and the tokens can be taken back. -/
structure Meets (likeness : Likeness) (token token' : Token) (after after' : Scanner) : Prop where
  content : token'.content = token.content
  place : likeness.places token.position token'.position
  alike : likeness.scanners after after'
  back : likeness.scanners after.pushBack after'.pushBack
  blank : token.isEnding = true -> after'.isBlank = after.isBlank

/-- One step of both scanners. -/
inductive NextAgrees (likeness : Likeness) (scanner scanner' : Scanner) : Prop
  | token {token token' : Token} {after after' : Scanner}
      (read : scanner.next = (.ok token, after)) (read' : scanner'.next = (.ok token', after'))
      (meets : likeness.Meets token token' after after')
  | fault {fault fault' : Fault} {after after' : Scanner}
      (failed : scanner.next = (.error fault, after))
      (failed' : scanner'.next = (.error fault', after')) (same : likeness.faults fault fault')

/-- What running two readers gives: related items, with scanners that can be
followed further, or related faults. -/
inductive Agrees (likeness : Likeness) {α β : Type} (same : α -> β -> Prop) :
    Except Fault α × Scanner -> Except Fault β × Scanner -> Prop
  | items {item : α} {item' : β} {after after' : Scanner} (related : same item item')
      (alike : likeness.scanners after after') :
      Agrees likeness same (.ok item, after) (.ok item', after')
  | faults {fault fault' : Fault} {after after' : Scanner} (related : likeness.faults fault fault') :
      Agrees likeness same (.error fault, after) (.error fault', after')

theorem Agrees.mono {likeness : Likeness} {α β : Type} {same other : α -> β -> Prop}
    {run : Except Fault α × Scanner} {run' : Except Fault β × Scanner}
    (agrees : likeness.Agrees same run run')
    (weaker : forall {item item'}, same item item' -> other item item') :
    likeness.Agrees other run run' := by
  cases agrees with
  | items related alike => exact .items (weaker related) alike
  | faults related => exact .faults related

end Likeness

/-- A likeness that is kept by every step, and that gives related faults at tokens
with the same text. -/
structure Pairing extends Likeness where
  step : forall {scanner scanner' : Scanner}, scanners scanner scanner' ->
    toLikeness.NextAgrees scanner scanner'
  faultAt : forall {scanner scanner' : Scanner} {cause : Cause} {token token' : Token},
    scanners scanner scanner' -> cause.stage ≠ .lexical -> token'.text = token.text ->
      places token.position token'.position ->
        faults (Parser.faultAt scanner cause token) (Parser.faultAt scanner' cause token')

namespace Likeness.Meets

variable {likeness : Likeness} {token token' : Token} {after after' : Scanner}

theorem kind (meets : likeness.Meets token token' after after') : token'.kind = token.kind :=
  Grammar.kind_of_content meets.content

theorem text (meets : likeness.Meets token token' after after') : token'.text = token.text :=
  Grammar.text_of_content meets.content

theorem isMark (meets : likeness.Meets token token' after after') (mark : Mark) :
    token'.isMark mark = token.isMark mark := by
  rw [Token.isMark, Token.isMark, meets.kind]

theorem isText (meets : likeness.Meets token token' after after') :
    token'.isText = token.isText := by
  rw [Token.isText, Token.isText, meets.kind]

theorem isEnding (meets : likeness.Meets token token' after after') :
    token'.isEnding = token.isEnding := by
  rw [Token.isEnding, Token.isEnding, meets.kind]

end Likeness.Meets

namespace Pairing

open CorpusQuery.Parser ParseM Likeness

variable {α β γ δ : Type} (pairing : Pairing)

/-! ## Steps of readers -/

theorem agrees_bind {same : α -> β -> Prop} {same' : γ -> δ -> Prop} {reader : ParseM α}
    {reader' : ParseM β} {further : α -> ParseM γ} {further' : β -> ParseM δ}
    {scanner scanner' : Scanner}
    (first : pairing.Agrees same (reader.runOn scanner) (reader'.runOn scanner'))
    (later : forall {item item' after after'}, same item item' -> pairing.scanners after after' ->
      pairing.Agrees same' ((further item).runOn after) ((further' item').runOn after')) :
    pairing.Agrees same' (ParseM.runOn (reader >>= further) scanner)
      (ParseM.runOn (reader' >>= further') scanner') := by
  rw [runOn_bind, runOn_bind]
  rcases ran : reader.runOn scanner with ⟨result, after⟩
  rcases ran' : reader'.runOn scanner' with ⟨result', after'⟩
  rw [ran, ran'] at first
  cases first with
  | items related alike => exact later related alike
  | faults related => exact .faults related

theorem agrees_next {same : α -> β -> Prop} {further : Token -> ParseM α}
    {further' : Token -> ParseM β} {scanner scanner' : Scanner}
    (alike : pairing.scanners scanner scanner')
    (later : forall {token token' after after'}, pairing.Meets token token' after after' ->
      pairing.Agrees same ((further token).runOn after) ((further' token').runOn after')) :
    pairing.Agrees same (ParseM.runOn (next >>= further) scanner)
      (ParseM.runOn (next >>= further') scanner') := by
  rw [runOn_bind, runOn_bind, runOn_next, runOn_next]
  cases pairing.step alike with
  | token read read' meets =>
      rw [read, read']
      exact later meets
  | fault failed failed' related =>
      rw [failed, failed']
      exact .faults related

theorem agrees_failAt {same : α -> β -> Prop} {scanner scanner' : Scanner} {cause : Cause}
    {token token' : Token} (alike : pairing.scanners scanner scanner')
    (stage : cause.stage ≠ .lexical) (text : token'.text = token.text)
    (place : pairing.places token.position token'.position) :
    pairing.Agrees same (ParseM.runOn (failAt cause token) scanner)
      (ParseM.runOn (failAt cause token') scanner') := by
  rw [runOn_failAt, runOn_failAt]
  exact .faults (pairing.faultAt alike stage text place)

/-- The reader does the same with both scanners. -/
def Mirrors (reader : ParseM α) : Prop :=
  forall ⦃scanner scanner' : Scanner⦄, pairing.scanners scanner scanner' ->
    pairing.Agrees Eq (reader.runOn scanner) (reader.runOn scanner')

/-! ## Terms -/

section AnyEngine

variable [Pattern.Engine]

theorem buildTerm_agrees {scanner scanner' : Scanner} {token token' : Token} (attr : Attribute)
    (negated : Bool) (alike : pairing.scanners scanner scanner')
    (text : token'.text = token.text) (place : pairing.places token.position token'.position) :
    pairing.Agrees Eq ((buildTerm attr negated token).runOn scanner)
      ((buildTerm attr negated token').runOn scanner') := by
  unfold buildTerm
  rw [text]
  cases built : termOfText attr negated token.text with
  | ok term => exact .items rfl alike
  | error cause =>
      have stage : cause.stage ≠ .lexical := by
        rw [termOfText_error built]
        decide
      exact pairing.agrees_failAt alike stage text place

theorem payload_mirrors (attr : Attribute) (negated : Bool) :
    pairing.Mirrors (payload attr negated) := by
  intro scanner scanner' alike
  unfold payload
  apply pairing.agrees_next alike
  intro token token' after after' meets
  rw [meets.isMark, meets.isText, meets.isEnding]
  split
  · exact pairing.buildTerm_agrees attr negated meets.alike rfl meets.place
  · split
    · apply pairing.agrees_bind
        (pairing.buildTerm_agrees attr negated meets.alike meets.text meets.place)
      rintro term _ between between' rfl alike
      apply pairing.agrees_next alike
      intro close close' behind behind' meets
      rw [meets.isMark, meets.isEnding]
      split
      · exact .items rfl meets.alike
      · split
        · exact pairing.agrees_failAt meets.alike (by decide) meets.text meets.place
        · exact pairing.agrees_failAt meets.alike (by decide) meets.text meets.place
    · split
      · exact pairing.agrees_failAt meets.alike (by decide) meets.text meets.place
      · exact pairing.agrees_failAt meets.alike (by decide) meets.text meets.place

theorem termFrom_agrees {token token' : Token} {scanner scanner' : Scanner} (negated : Bool)
    (meets : pairing.Meets token token' scanner scanner') :
    pairing.Agrees Eq ((termFrom negated token).runOn scanner)
      ((termFrom negated token').runOn scanner') := by
  unfold termFrom
  rw [meets.kind]
  split
  next =>
    apply pairing.agrees_next meets.alike
    intro after after' between between' follows
    rw [follows.isMark, meets.text]
    split
    · split
      · exact pairing.payload_mirrors _ negated follows.alike
      · exact pairing.agrees_failAt follows.alike (by decide) meets.text meets.place
    · simp only [runOn_bind, runOn_pushBack]
      exact pairing.buildTerm_agrees .spelling negated follows.back meets.text meets.place
  next ended =>
    -- Whether a token was seen before decides which fault the end of the text is.
    rw [runOn_bind, runOn_bind, runOn_get, runOn_get]
    simp only [meets.blank (decide_eq_true ended)]
    split
    · exact pairing.agrees_failAt meets.alike (by decide) meets.text meets.place
    · exact pairing.agrees_failAt meets.alike (by decide) meets.text meets.place
  next => exact pairing.agrees_failAt meets.alike (by decide) meets.text meets.place

theorem term_mirrors : pairing.Mirrors term := by
  intro scanner scanner' alike
  unfold term
  apply pairing.agrees_next alike
  intro token token' after after' meets
  rw [meets.isMark]
  split
  · apply pairing.agrees_next meets.alike
    intro name name' behind behind' meets
    exact pairing.termFrom_agrees true meets
  · exact pairing.termFrom_agrees false meets

end AnyEngine

/-! ## Levels -/

section Levels

variable {separator : Mark} {member : ParseM α} {derives : List Token -> α -> Prop}

theorem membersAfter_agrees (mirrors : pairing.Mirrors member) {add : β -> α -> β}
    {add' : γ -> α -> γ} {same : β -> γ -> Prop}
    (step : forall {whole whole'} item, same whole whole' ->
      same (add whole item) (add' whole' item))
    (bound : Nat) {scanner scanner' : Scanner} (alike : pairing.scanners scanner scanner')
    {whole : β} {whole' : γ} (related : same whole whole') :
    pairing.Agrees same ((membersAfter separator member add bound whole).runOn scanner)
      ((membersAfter separator member add' bound whole').runOn scanner') := by
  induction bound generalizing scanner scanner' whole whole' with
  | zero => exact .items related alike
  | succ bound ih =>
      unfold membersAfter
      apply pairing.agrees_next alike
      intro token token' after after' meets
      rw [meets.isMark]
      split
      · apply pairing.agrees_bind (mirrors meets.alike)
        rintro item _ between between' rfl alike
        exact ih alike (step item related)
      · simp only [runOn_bind, runOn_pushBack, runOn_pure]
        exact .items related meets.back

/-- Two loops that add the same members keep what relates their wholes. -/
theorem loop_agrees (sound : Sound member derives) (inside : Inside derives)
    (mirrors : pairing.Mirrors member) {add : β -> α -> β} {add' : γ -> α -> γ}
    {same : β -> γ -> Prop}
    (step : forall {whole whole'} item, same whole whole' ->
      same (add whole item) (add' whole' item))
    {scanner scanner' : Scanner} (alike : pairing.scanners scanner scanner') {whole : β}
    {whole' : γ}
    (related : same whole whole') :
    pairing.Agrees same ((loop separator member add whole).runOn scanner)
      ((loop separator member add' whole').runOn scanner') := by
  have enough := left_lt_tokensLeft scanner
  have enough' := left_lt_tokensLeft scanner'
  rw [<- membersAfter_eq_loop sound inside
      (Nat.lt_of_lt_of_le enough (Nat.le_add_right _ (tokensLeft scanner'))),
    <- membersAfter_eq_loop sound inside
      (Nat.lt_of_lt_of_le enough' (Nat.le_add_left _ (tokensLeft scanner)))]
  exact pairing.membersAfter_agrees mirrors step _ alike related

theorem level_mirrors (sound : Sound member derives) (inside : Inside derives)
    (mirrors : pairing.Mirrors member) (start : α -> β) (add : β -> α -> β) :
    pairing.Mirrors (level separator member start add) := by
  intro scanner scanner' alike
  rw [level_eq]
  apply pairing.agrees_bind (mirrors alike)
  rintro first _ after after' rfl alike
  apply pairing.loop_agrees sound inside mirrors _ alike rfl
  rintro whole _ item rfl
  rfl

end Levels

theorem finish_agrees {same : Query -> Query -> Prop} {whole whole' : Query}
    {scanner scanner' : Scanner} (alike : pairing.scanners scanner scanner')
    (related : same whole whole') :
    pairing.Agrees same ((finish whole).runOn scanner) ((finish whole').runOn scanner') := by
  unfold finish
  apply pairing.agrees_next alike
  intro token token' after after' meets
  rw [meets.isEnding]
  split
  · exact .items related meets.alike
  · exact pairing.agrees_failAt meets.alike (by decide) meets.text meets.place

variable [Pattern.Engine]

theorem termSet_mirrors : pairing.Mirrors termSet :=
  pairing.level_mirrors term_sound oneTerm_inside pairing.term_mirrors _ _

theorem wordPosition_mirrors : pairing.Mirrors wordPosition :=
  pairing.level_mirrors termSet_sound setNode_inside pairing.termSet_mirrors _ _

theorem phrase_mirrors : pairing.Mirrors phrase :=
  pairing.level_mirrors wordPosition_sound wordNode_inside pairing.wordPosition_mirrors _ _

theorem query_mirrors : pairing.Mirrors query := by
  intro scanner scanner' alike
  rw [query_eq, query_eq]
  apply pairing.agrees_bind
    (pairing.level_mirrors phrase_sound phraseNode_inside pairing.phrase_mirrors _ _ alike)
  rintro whole _ after after' rfl alike
  exact pairing.finish_agrees alike rfl

end Pairing
end CorpusQuery
