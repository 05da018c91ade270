import CorpusQuery.Pattern.Standard
import CorpusQuery.Proofs.Query.Reading
import CorpusQuery.Proofs.Query.Terms
import CorpusQuery.Proofs.Token.Spaced

namespace CorpusQuery

/-!
# Completing the text before a fault

A reader that meets a fault in the grammar or in a term blames one token.  What
it passed before that token is always the beginning of something it reads: there
are tokens that complete it.  For texts this means that the part before a fault
can be continued to a query.

Every level of the reader is shown to blame tokens in this way (`Pinpoints`), the
levels with separators all at once.  A level checks the text of a term as soon as
it has read it, and never hands a fault on to a later token; that is what the
proofs of the terms come down to.
-/

/-! ## Derivations do not depend on places -/

namespace Grammar

/-- Tokens with the same contents derive the same items. -/
def Placeless {α : Type} (derives : List Token -> α -> Prop) : Prop :=
  forall ⦃tokens other : List Token⦄ ⦃item : α⦄, derives tokens item ->
    other.map Token.content = tokens.map Token.content -> derives other item

theorem kind_of_content {one other : Token} (same : one.content = other.content) :
    one.kind = other.kind :=
  congrArg Prod.fst same

theorem text_of_content {one other : Token} (same : one.content = other.content) :
    one.text = other.text :=
  congrArg Prod.snd same

section AnyEngine

variable [Pattern.Engine]

theorem payload_placeless (attr : Attribute) (negated : Bool) :
    Placeless (Payload attr negated) := by
  intro tokens other term derived same
  cases derived with
  | empty closed valid =>
      rcases List.map_eq_cons_iff.mp same with ⟨closing, none, rfl, first, rest⟩
      rw [List.map_eq_nil_iff.mp rest]
      exact .empty ((kind_of_content first).trans closed) valid
  | @text text closing term carries valid closed =>
      rcases List.map_eq_cons_iff.mp same with ⟨text', others, rfl, first, later⟩
      rcases List.map_eq_cons_iff.mp later with ⟨closing', none, rfl, second, rest⟩
      rw [List.map_eq_nil_iff.mp rest]
      refine .text ?_ ?_ ((kind_of_content second).trans closed)
      · rw [Token.isText, kind_of_content first]
        exact carries
      · rw [text_of_content first]
        exact valid

theorem plain_placeless (negated : Bool) : Placeless (Plain negated) := by
  intro tokens other term derived same
  cases derived with
  | named isWord spelled opened inside =>
      rcases List.map_eq_cons_iff.mp same with ⟨name, others, rfl, first, later⟩
      rcases List.map_eq_cons_iff.mp later with ⟨opening, payload, rfl, second, rest⟩
      refine .named ((kind_of_content first).trans isWord) ?_
        ((kind_of_content second).trans opened)
        (payload_placeless _ _ inside rest)
      rw [text_of_content first]
      exact spelled
  | bare isWord valid =>
      rcases List.map_eq_cons_iff.mp same with ⟨word, none, rfl, first, rest⟩
      rw [List.map_eq_nil_iff.mp rest]
      refine .bare ((kind_of_content first).trans isWord) ?_
      rw [text_of_content first]
      exact valid

theorem oneTerm_placeless : Placeless OneTerm := by
  intro tokens other term derived same
  cases derived with
  | plain body => exact .plain (plain_placeless false body same)
  | negated marked body =>
      rcases List.map_eq_cons_iff.mp same with ⟨bang, others, rfl, first, rest⟩
      exact .negated ((kind_of_content first).trans marked) (plain_placeless true body rest)

end AnyEngine

section Separated

variable {α : Type} {separator : Mark} {member : List Token -> α -> Prop}

theorem further_placeless (placeless : Placeless member) :
    Placeless (Further separator member) := by
  intro tokens other items derived same
  induction derived generalizing other with
  | none =>
      rw [List.map_eq_nil_iff.mp same]
      exact .none
  | more separates first later ih =>
      rcases List.map_eq_cons_iff.mp same with ⟨mark, others, rfl, here, behind⟩
      rw [List.map_append] at behind
      rcases List.map_eq_append_iff.mp behind with ⟨one, rest, rfl, front, back⟩
      exact .more ((kind_of_content here).trans separates) (placeless first front) (ih back)

theorem separated_placeless (placeless : Placeless member) :
    Placeless (Separated separator member) := by
  intro tokens other items derived same
  cases derived with
  | intro first later =>
      rw [List.map_append] at same
      rcases List.map_eq_append_iff.mp same with ⟨one, rest, rfl, front, back⟩
      exact .intro (placeless first front) (further_placeless placeless later back)

end Separated

theorem oneQuery_placeless [Pattern.Engine] : Placeless OneQuery :=
  separated_placeless (separated_placeless (separated_placeless
    (separated_placeless oneTerm_placeless)))

end Grammar

/-! ## Texts of terms -/

namespace Parser

variable [Pattern.Engine]

/-- A bare word without braces tests the spelling. -/
theorem termOfText_unbraced {word : String} (unbraced : stripBraces word = none)
    (negated : Bool) :
    termOfText .spelling negated word = .ok ⟨.spelling, word, negated, false⟩ := by
  rcases bareText_of_unbraced unbraced with ⟨bare, literal⟩
  rw [termOfText_free (Or.inl rfl), bare, literal]
  rfl

theorem termOfText_error {attr : Attribute} {negated : Bool} {written : String} {cause : Cause}
    (failed : termOfText attr negated written = .error cause) : cause.stage = .semantic := by
  rcases attr.domain_cases with free | domain | ⟨table, tabled⟩
  · rw [termOfText_free free] at failed
    split at failed <;> cases failed
    rfl
  · rw [termOfText_numeric domain] at failed
    split at failed
    · cases failed
      rfl
    · split at failed <;> cases failed
      rfl
  · rw [termOfText_tabled tabled] at failed
    split at failed
    · cases failed
      rfl
    · split at failed
      · split at failed <;> cases failed
        rfl
      · split at failed <;> cases failed
        rfl

end Parser

namespace Grammar

/-! ## Completions -/

/-- Some tokens that can be written complete these to something derived. -/
def Completable {α : Type} (derives : List Token -> α -> Prop) (tokens : List Token) : Prop :=
  Exists fun more => Exists fun item =>
    (forall token, token ∈ more -> token.Regular) ∧ derives (tokens ++ more) item

theorem Completable.congr {α β : Type} {derives : List Token -> α -> Prop}
    {other : List Token -> β -> Prop} {tokens others : List Token}
    (completable : Completable derives tokens)
    (step : forall more item, derives (tokens ++ more) item ->
      Exists fun whole => other (others ++ more) whole) : Completable other others := by
  rcases completable with ⟨more, item, regular, derived⟩
  rcases step more item derived with ⟨whole, built⟩
  exact ⟨more, whole, regular, built⟩

/-- A text that the attribute takes: one of its letters, or a number, which is
free text as well. -/
def sample (attr : Attribute) : String :=
  match attr.domain.table? with
  | some (entry :: _) => String.singleton entry.canonical
  | _ => "0"

/-- The sample is no pattern, so that no engine is asked about it. -/
theorem sample_taken : forall attr, attr ∈ Attribute.all ->
    Parser.marksPattern (sample attr) = false ∧ (Parser.bareText (sample attr)).isEmpty = false ∧
      (attr.domain = .numeric ->
        (splitComparison? (Parser.bareText (sample attr))).isNone = false) ∧
      (attr.domain.table?.isSome = true ->
        (attr.decodeLiteral? (Parser.bareText (sample attr))).isSome = true) := by
  decide +kernel

theorem exists_termOfText_sample [Pattern.Engine] (attr : Attribute) (negated : Bool) :
    Exists fun term => Parser.termOfText attr negated (sample attr) = .ok term := by
  rcases sample_taken attr (Attribute.mem_all attr) with ⟨literal, filled, number, letter⟩
  rcases attr.domain_cases with free | domain | ⟨table, tabled⟩
  · rw [Parser.termOfText_free free, literal]
    exact ⟨_, rfl⟩
  · rw [Parser.termOfText_numeric domain, filled, literal, number domain]
    exact ⟨_, rfl⟩
  · have taken := letter (by rw [tabled]; rfl)
    rcases Option.isSome_iff_exists.mp taken with ⟨code, decoded⟩
    rw [Parser.termOfText_tabled tabled, filled, literal, decoded]
    exact ⟨_, rfl⟩

def closing : Token :=
  ⟨.mark .closeParen, ")", 0⟩

theorem closing_regular : closing.Regular := by
  change ")" = String.singleton ')'
  decide

/-- Behind an opening parenthesis a text and the closing one are still missing. -/
theorem completable_payload [Pattern.Engine] (attr : Attribute) (negated : Bool) :
    Completable (Payload attr negated) [] := by
  rcases exists_termOfText_sample attr negated with ⟨term, valid⟩
  let text : Token := ⟨.quoted, sample attr, 0⟩
  refine ⟨[text, closing], term, ?_, .text rfl valid rfl⟩
  simpa using ⟨(trivial : text.Regular), closing_regular⟩

/-- Where a term starts, a bare word is a term. -/
theorem completable_plain [Pattern.Engine] (negated : Bool) : Completable (Plain negated) [] := by
  let word : Token := ⟨.word, "x", 0⟩
  have regular : word.Regular := by
    change "x".toList ≠ [] ∧ "x".toList.all isWordChar = true ∧ Scanner.wordKind "x".toList = .word
    decide
  refine ⟨[word], _, ?_, .bare rfl (Parser.termOfText_unbraced (by decide +kernel) negated)⟩
  simpa using regular

theorem Completable.separated {α : Type} {separator : Mark} {member : List Token -> α -> Prop}
    {tokens : List Token} (completable : Completable member tokens) :
    Completable (Separated separator member) tokens := by
  refine completable.congr fun more item derived => ⟨[item], ?_⟩
  have whole : Separated separator member ((tokens ++ more) ++ []) [item] := .intro derived .none
  rwa [List.append_nil] at whole

theorem Completable.separated_of_further {α : Type} {separator : Mark}
    {member : List Token -> α -> Prop} {first tokens : List Token} {item : α}
    (derived : member first item) (completable : Completable (Further separator member) tokens) :
    Completable (Separated separator member) (first ++ tokens) := by
  refine completable.congr fun more items further => ⟨item :: items, ?_⟩
  rw [List.append_assoc]
  exact .intro derived further

end Grammar

/-! ## Faults of the scanner -/

namespace Scanner

/-- A step that fails leaves no token to blame. -/
theorem next_error {scanner after : Scanner} {fault : Fault}
    (read : scanner.next = (.error fault, after)) : fault.cause.stage = .lexical :=
  (raised_of_scanToken (scan_of_next_error read).2).lexical

theorem Steps.input {scanner after : Scanner} {tokens : List Token}
    (steps : Steps scanner tokens after) : after.input = scanner.input := by
  induction steps with
  | @done scanner after same => rw [<- next_input scanner, same, next_input]
  | @token scanner between after token tokens read later ih =>
      have kept := next_input scanner
      rw [read] at kept
      rw [ih, kept]

end Scanner

/-! ## Readers that blame tokens -/

namespace Parser

open ParseM

variable {α β : Type}

theorem bind_eq_error {reader : ParseM α} {further : α -> ParseM β} {scanner after : Scanner}
    {fault : Fault} (failed : ParseM.runOn (reader >>= further) scanner = (.error fault, after)) :
    reader.runOn scanner = (.error fault, after) ∨
      Exists fun item => Exists fun between =>
        reader.runOn scanner = (.ok item, between) ∧
          (further item).runOn between = (.error fault, after) := by
  rw [runOn_bind] at failed
  rcases ran : reader.runOn scanner with ⟨result, between⟩
  rw [ran] at failed
  cases result with
  | error other =>
      cases failed
      exact Or.inl rfl
  | ok item => exact Or.inr ⟨item, between, rfl, failed⟩

/-- A fault with a token to blame arises behind the next token. -/
theorem bind_next_eq_error {further : Token -> ParseM β} {scanner after : Scanner} {fault : Fault}
    (failed : ParseM.runOn (next >>= further) scanner = (.error fault, after))
    (blames : fault.cause.stage ≠ .lexical) :
    Exists fun token => Exists fun between =>
      scanner.next = (.ok token, between) ∧
        (further token).runOn between = (.error fault, after) := by
  rcases bind_eq_error failed with here | ⟨token, between, read, later⟩
  · rw [runOn_next] at here
    exact absurd (Scanner.next_error here) blames
  · rw [runOn_next] at read
    exact ⟨token, between, read, later⟩

theorem buildTerm_eq_error [Pattern.Engine] {attr : Attribute} {negated : Bool} {token : Token}
    {fault : Fault} {scanner after : Scanner}
    (failed : (buildTerm attr negated token).runOn scanner = (.error fault, after)) :
    Exists fun cause => fault = faultAt scanner cause token ∧ cause.stage = .semantic := by
  unfold buildTerm at failed
  cases built : termOfText attr negated token.text with
  | ok term =>
      rw [built] at failed
      cases failed
  | error cause =>
      rw [built] at failed
      cases failed
      exact ⟨cause, rfl, termOfText_error built⟩

/-- The fault is found at the token behind those that were passed. -/
structure Blames (scanner : Scanner) (fault : Fault) (passed : List Token) : Prop where
  inside : forall token, token ∈ passed -> token.isEnding = false
  parsed : fault.parsed = scanner.consumed fault.position
  found : Exists fun last => Exists fun after => Exists fun token =>
    Scanner.Steps scanner passed last ∧ last.next = (.ok token, after) ∧
      fault.position = token.position ∧ (fault.cause = .endsTooSoon -> token.isEnding = true)

namespace Blames

/-- A fault at the next token, or at the place of the next token. -/
theorem here {scanner between after : Scanner} {token place : Token} {cause : Cause}
    (read : scanner.next = (.ok token, between)) (same : place.position = token.position)
    (input : after.input = scanner.input)
    (ended : cause = .endsTooSoon -> token.isEnding = true) :
    Blames scanner (faultAt after cause place) [] := by
  refine ⟨fun token impossible => absurd impossible List.not_mem_nil, ?_,
    scanner, between, token, .done rfl, read, same, ended⟩
  simp only [faultAt, Scanner.consumed, input]

/-- A fault other than the early end of the text. -/
theorem other {scanner between after : Scanner} {token place : Token} {cause : Cause}
    (read : scanner.next = (.ok token, between)) (same : place.position = token.position)
    (input : after.input = scanner.input) (late : cause ≠ .endsTooSoon) :
    Blames scanner (faultAt after cause place) [] :=
  here read same input fun early => absurd early late

theorem behind {scanner between : Scanner} {fault : Fault} {tokens passed : List Token}
    (steps : Scanner.Steps scanner tokens between)
    (inside : forall token, token ∈ tokens -> token.isEnding = false)
    (blames : Blames between fault passed) : Blames scanner fault (tokens ++ passed) := by
  rcases blames with ⟨within, parsed, last, after, token, later, found⟩
  refine ⟨?_, ?_, last, after, token, steps.append later, found⟩
  · intro token among
    rcases List.mem_append.mp among with front | back
    · exact inside token front
    · exact within token back
  · rw [parsed, Scanner.consumed, Scanner.consumed, steps.input]

theorem behind_token {scanner between : Scanner} {fault : Fault} {token : Token}
    {passed : List Token} (read : scanner.next = (.ok token, between))
    (inside : token.isEnding = false) (blames : Blames between fault passed) :
    Blames scanner fault (token :: passed) :=
  blames.behind (.token read (.done rfl)) (by simpa using inside)

end Blames

/-- Every fault of the reader, those of the scanner apart, is found at a token,
and what was passed before can be completed. -/
def Pinpoints (reader : ParseM α) (derives : List Token -> α -> Prop) : Prop :=
  forall ⦃scanner after : Scanner⦄ ⦃fault : Fault⦄,
    reader.runOn scanner = (.error fault, after) -> fault.cause.stage ≠ .lexical ->
      Exists fun passed => Blames scanner fault passed ∧ Grammar.Completable derives passed

/-! ## Terms -/

section AnyEngine

variable [Pattern.Engine]

theorem payload_pinpoints (attr : Attribute) (negated : Bool) :
    Pinpoints (payload attr negated) (Grammar.Payload attr negated) := by
  intro scanner after fault failed blames
  unfold payload at failed
  rcases bind_next_eq_error failed blames with ⟨token, between, read, rest⟩
  have input : between.input = scanner.input :=
    (Scanner.Steps.token read (.done rfl)).input
  have start := Grammar.completable_payload attr negated
  split at rest
  next closed =>
    rcases buildTerm_eq_error rest with ⟨cause, rfl, semantic⟩
    exact ⟨[], .other read rfl input (by rintro rfl; cases semantic), start⟩
  next =>
    split at rest
    next carries =>
      rcases bind_eq_error rest with build | ⟨term, same, build, closing⟩
      · rcases buildTerm_eq_error build with ⟨cause, rfl, semantic⟩
        exact ⟨[], .other read rfl input (by rintro rfl; cases semantic), start⟩
      · -- The text is valid, so only the parenthesis is missing.
        rcases buildTerm_eq_ok.mp build with ⟨valid, rfl⟩
        have closable : Grammar.Completable (Grammar.Payload attr negated) [token] :=
          ⟨[Grammar.closing], term, by simpa using Grammar.closing_regular,
            .text carries valid rfl⟩
        rcases bind_next_eq_error closing blames with ⟨close, behind, read', done⟩
        have input' : behind.input = same.input := (Scanner.Steps.token read' (.done rfl)).input
        refine ⟨[token], ?_, closable⟩
        apply Blames.behind_token read (isEnding_of_isText carries)
        split at done
        · cases done
        · split at done
          next ended =>
            cases done
            exact .here read' rfl input' fun _ => ended
          next =>
            cases done
            exact .other read' rfl input' (by decide)
    next =>
      split at rest
      next ended =>
        cases rest
        exact ⟨[], .here read rfl input fun _ => ended, start⟩
      next =>
        cases rest
        exact ⟨[], .other read rfl input (by decide), start⟩

/-- A term from its name on blames the name or something behind it. -/
theorem termFrom_pinpoints {negated : Bool} {token : Token} {start scanner after : Scanner}
    {fault : Fault} (read : start.next = (.ok token, scanner))
    (failed : (termFrom negated token).runOn scanner = (.error fault, after))
    (blames : fault.cause.stage ≠ .lexical) :
    Exists fun passed => Blames start fault passed ∧
      Grammar.Completable (Grammar.Plain negated) passed := by
  have input : scanner.input = start.input := (Scanner.Steps.token read (.done rfl)).input
  have bare := Grammar.completable_plain negated
  unfold termFrom at failed
  split at failed
  next isWord =>
    rcases bind_next_eq_error failed blames with ⟨behind, between, read', rest⟩
    have input' : between.input = start.input :=
      (Scanner.Steps.token read (.token read' (.done rfl))).input
    split at rest
    next opened =>
      split at rest
      next attr found =>
        rcases payload_pinpoints attr negated rest blames with ⟨passed, located, completable⟩
        have opening := isMark_iff.mp opened
        refine ⟨token :: behind :: passed, ?_, completable.congr fun more term inside => ⟨term, ?_⟩⟩
        · exact .behind_token read (isEnding_of_word isWord)
            (.behind_token read' (isEnding_of_mark opening) located)
        · exact .named isWord (Attribute.ofMnemonic?_eq_some_iff.mp found) opening inside
      next =>
        cases rest
        exact ⟨[], .other read rfl input' (by decide), bare⟩
    next =>
      -- The token behind a bare word is handed back before the word is checked.
      simp only [runOn_bind, runOn_pushBack] at rest
      rcases buildTerm_eq_error rest with ⟨cause, rfl, semantic⟩
      have kept : between.pushBack.input = between.input := by
        unfold Scanner.pushBack
        split <;> rfl
      exact ⟨[], .other read rfl (kept.trans input') (by rintro rfl; cases semantic), bare⟩
  next ended =>
    rw [runOn_bind, runOn_get] at failed
    simp only at failed
    split at failed
    · cases failed
      exact ⟨[], .other read rfl input (by decide), bare⟩
    · cases failed
      exact ⟨[], .here read rfl input fun _ => decide_eq_true ended, bare⟩
  next =>
    cases failed
    exact ⟨[], .other read rfl input (by decide), bare⟩

theorem term_pinpoints : Pinpoints term Grammar.OneTerm := by
  intro scanner after fault failed blames
  unfold term at failed
  rcases bind_next_eq_error failed blames with ⟨token, between, read, rest⟩
  split at rest
  next marked =>
    rcases bind_next_eq_error rest blames with ⟨name, behind, read', rest⟩
    rcases termFrom_pinpoints read' rest blames with ⟨passed, located, completable⟩
    have bang := isMark_iff.mp marked
    refine ⟨token :: passed, located.behind_token read (isEnding_of_mark bang), ?_⟩
    exact completable.congr fun more term body => ⟨term, .negated bang body⟩
  next =>
    rcases termFrom_pinpoints read rest blames with ⟨passed, located, completable⟩
    exact ⟨passed, located, completable.congr fun more term body => ⟨term, .plain body⟩⟩

end AnyEngine

/-! ## Levels -/

section Levels

variable {separator : Mark} {member : ParseM α} {derives : List Token -> α -> Prop}
  {add : β -> α -> β}

/-- A fault among further members: those before it are complete, and the one
with the fault can be completed. -/
theorem Blames.further {scanner between behind : Scanner} {mark : Token} {fault : Fault}
    {tokens passed : List Token} {item : α} (inside : Inside derives)
    (read : scanner.next = (.ok mark, between)) (separates : mark.kind = .mark separator)
    (steps : Scanner.Steps between tokens behind) (derived : derives tokens item)
    (blames : Blames behind fault passed)
    (completable : Grammar.Completable (Grammar.Further separator derives) passed) :
    Blames scanner fault (mark :: (tokens ++ passed)) ∧
      Grammar.Completable (Grammar.Further separator derives) (mark :: (tokens ++ passed)) := by
  constructor
  · exact (blames.behind steps (inside derived).2).behind_token read (isEnding_of_mark separates)
  · refine completable.congr fun more items later => ⟨item :: items, ?_⟩
    rw [List.cons_append, List.append_assoc]
    exact .more separates derived later

/-- The member behind a separator can be completed. -/
theorem Blames.behind_mark {scanner between : Scanner} {mark : Token} {fault : Fault}
    {passed : List Token} (read : scanner.next = (.ok mark, between))
    (separates : mark.kind = .mark separator) (blames : Blames between fault passed)
    (completable : Grammar.Completable derives passed) :
    Blames scanner fault (mark :: passed) ∧
      Grammar.Completable (Grammar.Further separator derives) (mark :: passed) := by
  refine ⟨blames.behind_token read (isEnding_of_mark separates), ?_⟩
  refine completable.congr fun more item derived => ⟨[item], ?_⟩
  have whole : Grammar.Further separator derives (mark :: ((passed ++ more) ++ [])) [item] :=
    .more separates derived .none
  rwa [List.append_nil] at whole

theorem membersAfter_pinpoints (sound : Sound member derives) (inside : Inside derives)
    (pinpoints : Pinpoints member derives) (bound : Nat) {whole : β} {scanner after : Scanner}
    {fault : Fault}
    (failed : (membersAfter separator member add bound whole).runOn scanner = (.error fault, after))
    (blames : fault.cause.stage ≠ .lexical) :
    Exists fun passed => Blames scanner fault passed ∧
      Grammar.Completable (Grammar.Further separator derives) passed := by
  induction bound generalizing whole scanner with
  | zero => cases failed
  | succ bound ih =>
      unfold membersAfter at failed
      rcases bind_next_eq_error failed blames with ⟨mark, between, read, rest⟩
      split at rest
      next marked =>
        have separates := isMark_iff.mp marked
        rcases bind_eq_error rest with here | ⟨item, behind, one, loop⟩
        · rcases pinpoints here blames with ⟨passed, located, completable⟩
          exact ⟨_, located.behind_mark read separates completable⟩
        · rcases sound one with ⟨tokens, steps, derived⟩
          rcases ih loop with ⟨passed, located, completable⟩
          exact ⟨_, located.further inside read separates steps derived completable⟩
      next =>
        simp only [runOn_bind, runOn_pushBack, runOn_pure] at rest
        cases rest

theorem level_pinpoints {start : α -> β} (sound : Sound member derives) (inside : Inside derives)
    (pinpoints : Pinpoints member derives) :
    Pinpoints (level separator member start add) (Assembled separator derives start add) := by
  have assembled : forall {passed},
      Grammar.Completable (Grammar.Separated separator derives) passed ->
      Grammar.Completable (Assembled separator derives start add) passed := by
    intro passed completable
    refine completable.congr fun more items separated => ?_
    cases items with
    | nil => exact False.elim (separated.ne_nil rfl)
    | cons first items => exact ⟨_, first, items, separated, rfl⟩
  intro scanner after fault failed blames
  unfold level at failed
  rcases bind_eq_error failed with here | ⟨first, between, one, rest⟩
  · rcases pinpoints here blames with ⟨passed, located, completable⟩
    exact ⟨passed, located, assembled completable.separated⟩
  · rw [runOn_bind, runOn_get] at rest
    rcases sound one with ⟨tokens, steps, derived⟩
    rcases membersAfter_pinpoints sound inside pinpoints _ rest blames with
      ⟨passed, located, completable⟩
    exact ⟨tokens ++ passed, located.behind steps (inside derived).2,
      assembled (.separated_of_further derived completable)⟩

theorem Pinpoints.congr {reader : ParseM α} {derives other : List Token -> α -> Prop}
    (pinpoints : Pinpoints reader derives)
    (same : forall ⦃tokens item⦄, derives tokens item -> other tokens item) :
    Pinpoints reader other := by
  intro scanner after fault failed blames
  rcases pinpoints failed blames with ⟨passed, located, completable⟩
  exact ⟨passed, located, completable.congr fun more item derived => ⟨item, same derived⟩⟩

end Levels

variable [Pattern.Engine]

theorem termSet_pinpoints : Pinpoints termSet Grammar.SetNode :=
  (level_pinpoints term_sound oneTerm_inside term_pinpoints).congr fun _ _ => assembled_set.mp

theorem wordPosition_pinpoints : Pinpoints wordPosition Grammar.WordNode :=
  (level_pinpoints termSet_sound setNode_inside termSet_pinpoints).congr fun _ _ =>
    assembled_word.mp

theorem phrase_pinpoints : Pinpoints phrase Grammar.PhraseNode :=
  (level_pinpoints wordPosition_sound wordNode_inside wordPosition_pinpoints).congr fun _ _ =>
    assembled_phrase.mp

/-! ## Whole queries -/

theorem phrasesAfter_pinpoints (bound : Nat) {whole : Query} {scanner after : Scanner}
    {fault : Fault} (failed : (phrasesAfter bound whole).runOn scanner = (.error fault, after))
    (blames : fault.cause.stage ≠ .lexical) :
    Exists fun passed => Blames scanner fault passed ∧
      Grammar.Completable (Grammar.Further .bar Grammar.PhraseNode) passed := by
  induction bound generalizing whole scanner with
  | zero => cases failed
  | succ bound ih =>
      unfold phrasesAfter at failed
      rcases bind_next_eq_error failed blames with ⟨token, between, read, rest⟩
      have input : between.input = scanner.input := (Scanner.Steps.token read (.done rfl)).input
      split at rest
      next marked =>
        have bar := isMark_iff.mp marked
        rcases bind_eq_error rest with here | ⟨item, behind, one, loop⟩
        · rcases phrase_pinpoints here blames with ⟨passed, located, completable⟩
          exact ⟨_, located.behind_mark read bar completable⟩
        · rcases phrase_sound one with ⟨tokens, steps, derived⟩
          rcases ih loop with ⟨passed, located, completable⟩
          exact ⟨_, located.further phraseNode_inside read bar steps derived completable⟩
      next =>
        split at rest
        · cases rest
        · -- What stands before a token that ends no query is a query by itself.
          cases rest
          refine ⟨[], .other read rfl input (by decide), [], [], ?_, .none⟩
          exact fun token impossible => absurd impossible List.not_mem_nil

theorem query_pinpoints : Pinpoints query Grammar.QueryNode := by
  have assembled : forall {passed},
      Grammar.Completable (Grammar.Separated .bar Grammar.PhraseNode) passed ->
        Grammar.Completable Grammar.QueryNode passed := by
    intro passed completable
    refine completable.congr fun more phrases separated => ?_
    cases phrases with
    | nil => exact False.elim (separated.ne_nil rfl)
    | cons first phrases => exact ⟨_, Query.queryNode_of_separated separated⟩
  intro scanner after fault failed blames
  unfold query at failed
  rcases bind_eq_error failed with here | ⟨first, between, one, rest⟩
  · rcases phrase_pinpoints here blames with ⟨passed, located, completable⟩
    exact ⟨passed, located, assembled completable.separated⟩
  · rw [runOn_bind, runOn_get] at rest
    rcases phrase_sound one with ⟨tokens, steps, derived⟩
    rcases phrasesAfter_pinpoints _ rest blames with ⟨passed, located, completable⟩
    exact ⟨tokens ++ passed, located.behind steps (phraseNode_inside derived).2,
      assembled (.separated_of_further derived completable)⟩

end Parser

/-! ## Texts -/

namespace Query

open CorpusQuery.Parser

/-- The characters before a fault are a layout of the tokens that were passed. -/
theorem spaced_of_blames {text : String} {fault : Fault} {passed : List Token}
    (blames : Blames (.ofText text) fault passed) :
    Token.Spaced 0 passed fault.parsed.toList ∧
      (fault.cause = .endsTooSoon -> fault.parsed = text) := by
  rcases blames with ⟨inside, parsed, last, after, token, steps, read, position, ended⟩
  rcases steps.spaced rfl inside read with ⟨front, behind, whole, spaced, starts, nothing⟩
  change text.toList = front ++ behind at whole
  have before : fault.parsed = String.ofList front := by
    rw [parsed, position, starts, Scanner.consumed]
    change String.ofList (text.toList.take (0 + front.length)) = _
    rw [whole, Nat.zero_add, List.take_left]
  constructor
  · rw [before, String.toList_ofList]
    exact spaced
  · intro early
    rw [nothing (ended early), List.append_nil] at whole
    rw [before, <- whole, String.ofList_toList]

section AnyEngine

variable [Pattern.Engine]

/-- A text in which tokens of a query are laid out is read as that query. -/
theorem parse_of_spaced {text : String} {tokens : List Token} {query : Query}
    (spaced : Token.Spaced 0 tokens text.toList) (derived : Grammar.QueryNode tokens query) :
    parse text = .ok query := by
  rcases Scanner.yields_of_spaced spaced with ⟨ending, yields⟩
  exact parse_of_derived yields derived

theorem blames_of_parse {text : String} {fault : Fault} (rejected : parse text = .error fault)
    (blames : fault.cause.stage ≠ .lexical) :
    Exists fun passed => Blames (.ofText text) fault passed ∧
      Grammar.Completable Grammar.QueryNode passed := by
  unfold parse at rejected
  rcases ran : Parser.query.runOn (.ofText text) with ⟨result, after⟩
  rw [ran] at rejected
  cases rejected
  exact query_pinpoints ran blames

/-- Tokens that can be completed are the beginning of a query, and so is the text
they stand in, with any blanks behind it. -/
theorem exists_parse_append {text blanks : String} {passed : List Token}
    (spaced : Token.Spaced 0 passed text.toList)
    (completable : Grammar.Completable Grammar.QueryNode passed)
    (blank : blanks.toList.all Text.isBlank = true) :
    Exists fun more => Exists fun query => parse (text ++ blanks ++ more) = .ok query := by
  rcases completable with ⟨tokens, query, regular, tree, derived, same⟩
  rcases Token.exists_spaced regular (0 + text.toList.length) blank with ⟨placed, content, later⟩
  have ends := endsWord_append (endsWord_of_blank blank) (Token.endsWord_spelled tokens)
  have whole : Token.Spaced 0 (passed ++ placed)
      (text ++ blanks ++ String.ofList (Token.spelled tokens)).toList := by
    rw [String.toList_append, String.toList_append, String.toList_ofList, List.append_assoc]
    exact spaced.append ends later
  refine ⟨_, query, parse_of_spaced whole ⟨tree, Grammar.oneQuery_placeless derived ?_, same⟩⟩
  rw [List.map_append, List.map_append, content]

/-- The text before a fault, unless the scanner found it, is what stands before
the position of the fault, and it is the beginning of a query. -/
theorem exists_parse_of_fault {text : String} {fault : Fault} (rejected : parse text = .error fault)
    (blames : fault.cause.stage ≠ .lexical) :
    fault.parsed.toList = text.toList.take fault.position ∧
      Exists fun more => Exists fun query => parse (fault.parsed ++ more) = .ok query := by
  rcases blames_of_parse rejected blames with ⟨passed, located, completable⟩
  have noBlanks : "".toList.all Text.isBlank = true := rfl
  rcases exists_parse_append (spaced_of_blames located).1 completable noBlanks with
    ⟨more, query, accepted⟩
  rw [String.append_empty] at accepted
  refine ⟨?_, more, query, accepted⟩
  rw [located.parsed, Scanner.consumed, String.toList_ofList]
  rfl

/-- The fault of a text that is not read. -/
def fault? (text : String) : Option Fault :=
  match parse text with
  | .ok _ => none
  | .error fault => some fault

theorem parse_of_fault? {text : String} {fault : Fault} (found : fault? text = some fault) :
    parse text = .error fault := by
  unfold fault? at found
  cases result : parse text with
  | error other => rw [result] at found; cases found; rfl
  | ok query => rw [result] at found; cases found

end AnyEngine

/-- A letter that the attribute does not have is blamed at once, inside its
parentheses and behind a negation. -/
theorem exists_parse_of_fault_of_letter :
    let fault : Fault := ⟨.badCategory, "q", "spe(\" \") :!mor(", 15⟩
    parse "spe(\" \") :!mor(q) | )" = .error fault ∧
      Exists fun more => Exists fun query => parse (fault.parsed ++ more) = .ok query := by
  intro fault
  have found : fault? "spe(\" \") :!mor(q) | )" = some fault := by decide +kernel
  have rejected := parse_of_fault? found
  exact ⟨rejected, (exists_parse_of_fault rejected (by decide)).2⟩

end Query
end CorpusQuery
