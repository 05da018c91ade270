import CorpusQuery.Proofs.Token.Stream

namespace CorpusQuery

/-!
# Texts of token lists

Tokens stand in a text one after another, with blanks before, between and behind
them.  Only bare words and numbers need a blank between them, and every token
knows the offset at which it starts.

What a scanner passes on its way to a token is such a layout of the tokens it
handed out.  Conversely it reads a layout as its tokens, whatever comes behind
it, as long as that does not continue the last word.  So the tokens before some
place depend on the characters before it alone: a text that is cut in front of a
token and continued in another way still starts with the same tokens.
-/

namespace Token

/-- The tokens are written in these characters, the first of which has the given
offset. -/
inductive Spaced : Nat -> List Token -> List Char -> Prop
  | blank {offset : Nat} {blanks : List Char} (blank : blanks.all Text.isBlank = true) :
      Spaced offset [] blanks
  | token {offset : Nat} {blanks rest : List Char} {token : Token} {tokens : List Token}
      (blank : blanks.all Text.isBlank = true) (regular : token.Regular)
      (starts : token.position = offset + blanks.length)
      (ends : token.isBare = true -> EndsWord rest)
      (later : Spaced (offset + blanks.length + token.raw.length) tokens rest) :
      Spaced offset (token :: tokens) (blanks ++ (token.raw ++ rest))

/-- The end of a text is not written in it. -/
theorem Regular.isEnding {token : Token} (regular : token.Regular) : token.isEnding = false := by
  rcases token with ⟨kind, text, position⟩
  cases kind with
  | ending => exact False.elim regular
  | word => rfl
  | quoted => rfl
  | number => rfl
  | mark mark => rfl

end Token

theorem endsWord_of_blank {blanks : List Char} (blank : blanks.all Text.isBlank = true) :
    EndsWord blanks := by
  intro c first
  have isBlank := List.all_eq_true.mp blank c (List.mem_of_mem_head? first)
  rw [Bool.eq_false_iff]
  intro word
  rw [(isWordChar_iff.mp word).1] at isBlank
  cases isBlank

theorem endsWord_append {front behind : List Char} (first : EndsWord front)
    (ends : EndsWord behind) : EndsWord (front ++ behind) := by
  cases front with
  | nil => exact ends
  | cons c rest => exact endsWord_cons.mpr (endsWord_cons.mp first)

theorem EndsWord.left {front behind : List Char} (ends : EndsWord (front ++ behind)) :
    EndsWord front := by
  cases front with
  | nil => exact fun c impossible => by cases impossible
  | cons c rest => exact endsWord_cons.mpr (endsWord_cons.mp ends)

namespace Token

theorem Spaced.inside {offset : Nat} {tokens : List Token} {chars : List Char}
    (spaced : Spaced offset tokens chars) :
    forall token, token ∈ tokens -> token.isEnding = false := by
  induction spaced with
  | blank => exact fun token impossible => absurd impossible List.not_mem_nil
  | token _ regular _ _ _ ih => exact List.forall_mem_cons.mpr ⟨regular.isEnding, ih⟩

theorem Spaced.behind_blanks {offset : Nat} {blanks chars : List Char} {tokens : List Token}
    (blank : blanks.all Text.isBlank = true)
    (spaced : Spaced (offset + blanks.length) tokens chars) :
    Spaced offset tokens (blanks ++ chars) := by
  cases spaced with
  | blank blank' =>
      refine .blank ?_
      rw [List.all_append, blank, blank']
      rfl
  | @token _ blanks' rest token tokens blank' regular starts ends later =>
      rw [<- List.append_assoc]
      refine .token ?_ regular ?_ ends ?_
      · rw [List.all_append, blank, blank']
        rfl
      · rw [starts, List.length_append, Nat.add_assoc]
      · rw [List.length_append, <- Nat.add_assoc]
        exact later

/-- Layouts can be put behind each other where no word goes on. -/
theorem Spaced.append {offset : Nat} {first second : List Token} {front back : List Char}
    (start : Spaced offset first front) (ends : EndsWord back)
    (finish : Spaced (offset + front.length) second back) :
    Spaced offset (first ++ second) (front ++ back) := by
  induction start with
  | blank blank => exact finish.behind_blanks blank
  | @token offset blanks rest token tokens blank regular starts inner later ih =>
      rw [List.append_assoc, List.append_assoc]
      refine .token blank regular starts (fun bare => endsWord_append (inner bare) ends) (ih ?_)
      rw [List.length_append, List.length_append, <- Nat.add_assoc, <- Nat.add_assoc] at finish
      exact finish

end Token

namespace Scanner

/-! ## From runs to layouts -/

/-- What one step passes: blanks, and then the characters of the token, or
nothing when the text is used up. -/
theorem next_spaced {scanner after : Scanner} {token : Token} (free : scanner.pushed = none)
    (read : scanner.next = (.ok token, after)) :
    Exists fun blanks => blanks.all Text.isBlank = true ∧
      token.position = scanner.position + blanks.length ∧
        ((token.isEnding = true ∧ scanner.rest = blanks) ∨
          (token.Regular ∧ scanner.rest = blanks ++ (token.raw ++ after.rest) ∧
            (token.isBare = true -> EndsWord after.rest) ∧
              after.position = token.position + token.raw.length)) := by
  rcases next_cases read with ⟨waiting, _⟩ | ⟨_, between, scanned, rfl⟩
  · rw [free] at waiting
    cases waiting
  · have parts := List.takeWhile_append_dropWhile (p := Text.isBlank) (l := scanner.rest)
    have skipped := rest_skipBlanks scanner
    refine ⟨scanner.rest.takeWhile Text.isBlank, List.all_takeWhile, ?_⟩
    rcases before_of_scanToken scanned with ⟨atEnd, rfl, _⟩ | front
    · refine ⟨rfl, Or.inl ⟨rfl, ?_⟩⟩
      rw [<- skipped, atEnd, List.append_nil] at parts
      exact parts.symm
    · refine ⟨front.starts, Or.inr ⟨front.regular, ?_, front.ends, ?_⟩⟩
      · rw [<- skipped, front.written] at parts
        exact parts.symm
      · rw [front.starts, front.moved]
        rfl

/-- What was passed is a layout of the tokens, and behind it stands a scanner with
the same next step that has nothing to hand out again. -/
theorem Steps.laid {scanner last : Scanner} {passed : List Token}
    (steps : Steps scanner passed last) (free : scanner.pushed = none)
    (inside : forall token, token ∈ passed -> token.isEnding = false) :
    Exists fun place : Scanner => Exists fun front =>
      place.next = last.next ∧ place.pushed = none ∧ place.input = scanner.input ∧
        place.position = scanner.position + front.length ∧
          scanner.rest = front ++ place.rest ∧ Token.Spaced scanner.position passed front := by
  induction steps with
  | @done scanner last same =>
      exact ⟨scanner, [], same, free, rfl, rfl, rfl, .blank rfl⟩
  | @token scanner between last token tokens read later ih =>
      have parts := List.forall_mem_cons.mp inside
      have kept := next_input scanner
      rw [read] at kept
      rcases ih (next_pushed read) parts.2 with
        ⟨place, front, meets, waits, input, position, rest, spaced⟩
      rcases next_spaced free read with
        ⟨blanks, blank, starts, ⟨atEnd, _⟩ | ⟨regular, whole, ends, moved⟩⟩
      · rw [parts.1] at atEnd
        cases atEnd
      · rw [rest] at whole ends
        rw [moved, starts] at position spaced
        refine ⟨place, blanks ++ (token.raw ++ front), meets, waits, input.trans kept, ?_, ?_,
          .token blank regular starts (fun bare => (ends bare).left) spaced⟩
        · rw [position, List.length_append, List.length_append]
          omega
        · rw [whole, List.append_assoc, List.append_assoc]

/-- The characters in front of a token are a layout of the tokens before it.
Behind the last one there is nothing. -/
theorem Steps.spaced {scanner last after : Scanner} {tokens : List Token} {token : Token}
    (steps : Steps scanner tokens last) (free : scanner.pushed = none)
    (inside : forall token, token ∈ tokens -> token.isEnding = false)
    (read : last.next = (.ok token, after)) :
    Exists fun front => Exists fun behind =>
      scanner.rest = front ++ behind ∧ Token.Spaced scanner.position tokens front ∧
        token.position = scanner.position + front.length ∧
          (token.isEnding = true -> behind = []) := by
  rcases steps.laid free inside with ⟨place, front, meets, waits, _, position, rest, spaced⟩
  rcases next_spaced waits (meets.trans read) with ⟨blanks, blank, starts, found⟩
  have laid := spaced.append (endsWord_of_blank blank) (.blank blank)
  have offset : token.position = scanner.position + (front ++ blanks).length := by
    rw [starts, position, List.length_append, Nat.add_assoc]
  rw [List.append_nil] at laid
  rcases found with ⟨_, whole⟩ | ⟨regular, whole, _⟩
  · refine ⟨front ++ blanks, [], ?_, laid, offset, fun _ => rfl⟩
    rw [rest, whole, List.append_nil]
  · refine ⟨front ++ blanks, token.raw ++ after.rest, ?_, laid, offset, fun atEnd => ?_⟩
    · rw [rest, whole, List.append_assoc]
    · rw [regular.isEnding] at atEnd
      cases atEnd

/-! ## From layouts to runs -/

/-- Blanks at the front of the text do not matter. -/
theorem next_of_blanks {scanner : Scanner} {blanks behind : List Char}
    (stands : scanner.At (blanks ++ behind)) (blank : blanks.all Text.isBlank = true) :
    scanner.next = next { scanner with position := scanner.position + blanks.length } := by
  have skipped : scanner.skipBlanks =
      skipBlanks { scanner with position := scanner.position + blanks.length } := by
    unfold skipBlanks
    rw [(at_behind stands).2, stands.2, List.takeWhile_append_of_pos (List.all_eq_true.mp blank),
      List.length_append, Nat.add_assoc]
  simp only [next, stands.1, scan, skipped]

/-- A scanner in front of a layout reads its tokens and goes on behind it. -/
theorem steps_of_spaced {offset : Nat} {tokens : List Token} {chars : List Char}
    (spaced : Token.Spaced offset tokens chars) {scanner : Scanner} {behind : List Char}
    (stands : scanner.At (chars ++ behind)) (placed : scanner.position = offset)
    (ends : EndsWord behind) :
    Exists fun after => Steps scanner tokens after ∧ after.At behind := by
  induction spaced generalizing scanner with
  | blank blank => exact ⟨_, .done (next_of_blanks stands blank), at_behind stands⟩
  | @token offset blanks rest token tokens blank regular starts inner later ih =>
      rw [List.append_assoc, List.append_assoc] at stands
      have front := at_behind stands
      have read := next_written front regular (by rw [starts, placed])
        fun bare => endsWord_append (inner bare) ends
      have passed : At (handOut { scanner with
          position := scanner.position + blanks.length + token.raw.length } token)
          (rest ++ behind) :=
        ⟨rfl, (at_behind front).2⟩
      rcases ih passed (by rw [<- placed]; rfl) with ⟨after, steps, reached⟩
      exact ⟨after, .token ((next_of_blanks stands blank).trans read) steps, reached⟩

/-- The tokens of a text are laid out in it. -/
theorem Yields.spaced {text : String} {tokens : List Token} {ending : Token}
    (yields : Yields (.ofText text) tokens ending) : Token.Spaced 0 tokens text.toList := by
  rcases yields_iff.mp yields with ⟨inside, last, after, steps, read, atEnd⟩
  rcases steps.spaced rfl inside read with ⟨front, behind, whole, spaced, _, nothing⟩
  rw [nothing atEnd, List.append_nil] at whole
  change text.toList = front at whole
  rw [whole]
  exact spaced

/-- Tokens that are laid out in a text are the tokens of the text. -/
theorem yields_of_spaced {text : String} {tokens : List Token}
    (spaced : Token.Spaced 0 tokens text.toList) :
    Exists fun ending => Yields (.ofText text) tokens ending := by
  have stands : At (.ofText text) (text.toList ++ []) := by
    rw [List.append_nil]
    exact at_ofText text
  rcases steps_of_spaced spaced stands rfl (fun c impossible => by cases impossible) with
    ⟨last, steps, reached⟩
  rcases next_at_nil reached with ⟨ending, after, read, atEnd⟩
  exact ⟨ending, yields_iff.mpr ⟨spaced.inside, last, after, steps, read, atEnd⟩⟩

end Scanner

/-! ## Tokens without their place -/

namespace Token

/-- What a token is, wherever it stands. -/
def content (token : Token) : TokenKind × String :=
  (token.kind, token.text)

/-- Characters that write tokens, each with a space before it. -/
def spelled (tokens : List Token) : List Char :=
  tokens.flatMap fun token => ' ' :: token.raw

theorem endsWord_spelled (tokens : List Token) : EndsWord (spelled tokens) := by
  cases tokens with
  | nil => exact fun c impossible => by cases impossible
  | cons token tokens => exact endsWord_cons.mpr (by decide)

/-- Tokens can be written at any place, behind any blanks. -/
theorem exists_spaced {tokens : List Token}
    (regular : forall token, token ∈ tokens -> token.Regular) (offset : Nat) {blanks : List Char}
    (blank : blanks.all Text.isBlank = true) :
    Exists fun placed => placed.map content = tokens.map content ∧
      Spaced offset placed (blanks ++ spelled tokens) := by
  induction tokens generalizing offset blanks with
  | nil =>
      refine ⟨[], rfl, .blank ?_⟩
      rw [List.all_append, blank]
      rfl
  | cons token tokens ih =>
      have parts := List.forall_mem_cons.mp regular
      have wider : (blanks ++ [' ']).all Text.isBlank = true := by
        rw [List.all_append, blank]
        decide
      let moved : Token := { token with position := offset + (blanks ++ [' ']).length }
      have none : ([] : List Char).all Text.isBlank = true := rfl
      rcases ih parts.2 (moved.position + moved.raw.length) none with ⟨placed, same, spaced⟩
      refine ⟨moved :: placed, by rw [List.map_cons, List.map_cons, same]; rfl, ?_⟩
      have whole : blanks ++ spelled (token :: tokens) =
          (blanks ++ [' ']) ++ (moved.raw ++ spelled tokens) := by
        simp only [spelled, List.flatMap_cons, List.append_assoc, List.cons_append,
          List.nil_append]
        rfl
      rw [whole]
      exact .token wider parts.1 rfl (fun _ => endsWord_spelled tokens) spaced

end Token
end CorpusQuery
