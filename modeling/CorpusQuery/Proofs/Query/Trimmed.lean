import CorpusQuery.Command
import CorpusQuery.Pattern.Standard
import CorpusQuery.Proofs.Query.Behind

namespace CorpusQuery

/-!
# Blanks around a query

Commands remove the blanks around a query before they read it.  This is done
before anything is known about the tokens, so the blanks at the end may have been
part of a quoted text that is never closed, or may have stood behind a backslash.
It makes no difference to what is read: the same queries are accepted, and a fault
keeps its stage and, unless the scanner itself found it, its cause and fragment.

Blanks in front are a front like any other.  For blanks behind, a text and its
extension are followed together.  Every place but the end of the text is the same
in both.  A token that is complete in the extended text is complete in the text
itself, since no token ends in a blank; so the scanner fails in both or in none.
-/

namespace Text

/-- A text is what trimming leaves, with the blanks that it starts with in front
and blanks behind. -/
theorem exists_blanks (text : String) :
    Exists fun trail : String => trail.toList.all isBlank = true ∧
      text = String.ofList (text.toList.takeWhile isBlank) ++ (trim text ++ trail) := by
  refine ⟨String.ofList ((text.toList.dropWhile isBlank).rtakeWhile isBlank), ?_, ?_⟩
  · rw [String.toList_ofList, List.all_eq_true]
    exact fun c member => List.mem_rtakeWhile_imp member
  · rw [trim, <- String.ofList_append, <- String.ofList_append, trimChars_eq,
      List.rdropWhile_append_rtakeWhile, List.takeWhile_append_dropWhile, String.ofList_toList]

end Text

namespace Token

/-- No blank ends a written token. -/
theorem Regular.isBlank_last {token : Token} {c : Char} {letters : List Char}
    (regular : token.Regular) (shown : token.raw = letters ++ [c]) : Text.isBlank c = false := by
  rcases token with ⟨kind, text, position⟩
  have letter : text.toList = letters ++ [c] -> text.toList.all isWordChar = true ->
      Text.isBlank c = false := by
    intro same all
    rw [same] at all
    have last := List.all_eq_true.mp all c List.mem_concat_self
    exact (isWordChar_iff.mp last).1
  cases kind with
  | ending => exact False.elim regular
  | word => exact letter shown regular.2.1
  | number => exact letter shown regular.2.1
  | mark mark =>
      have single : text = String.singleton mark.toChar := regular
      have same : [mark.toChar] = letters ++ [c] := by simpa [raw, single] using shown
      cases List.append_eq_singleton_iff.mp same.symm with
      | inl parts =>
          cases parts.2
          exact isBlank_toChar mark
      | inr parts => cases parts.2
  | quoted =>
      have closed : raw ⟨.quoted, text, position⟩ =
          ('"' :: Canonical.escaped text.toList) ++ ['"'] := rfl
      have same := List.append_inj_right' (closed.symm.trans shown) rfl
      cases same
      decide

/-- A token that is written at the start of a text with blanks behind it is
written in the text itself. -/
theorem Regular.exists_between {token : Token} (regular : token.Regular)
    {text trail behind : List Char} (blank : trail.all Text.isBlank = true)
    (whole : text ++ trail = token.raw ++ behind) :
    Exists fun between => text = token.raw ++ between ∧ behind = between ++ trail := by
  rcases List.append_eq_append_iff.mp whole with ⟨beyond, shown, rest⟩ | ⟨between, inside⟩
  · -- The token reaches into the blanks by nothing, or else it ends in a blank.
    rcases List.eq_nil_or_concat beyond with rfl | ⟨letters, c, rfl⟩
    · exact ⟨[], by rw [shown, List.append_nil, List.append_nil], rest.symm⟩
    · rw [List.concat_eq_append] at shown rest
      rw [<- List.append_assoc] at shown
      have visible := regular.isBlank_last shown
      have member : c ∈ trail := by
        rw [rest]
        exact List.mem_append_left behind List.mem_concat_self
      rw [List.all_eq_true.mp blank c member] at visible
      cases visible
  · exact ⟨between, inside⟩

end Token

namespace Scanner

/-! ## Blanks behind -/

section Blanks

variable {scanner scanner' after : Scanner} {token : Token} {trail : List Char}

theorem skipBlanks_of_blank (all : forall c, c ∈ scanner.rest -> Text.isBlank c = true) :
    scanner.skipBlanks.rest = [] ∧
      scanner.skipBlanks.position = scanner.position + scanner.rest.length := by
  have whole := List.takeWhile_eq_self_iff.mpr all
  refine ⟨by rw [rest_skipBlanks, List.dropWhile_eq_nil_iff.mpr all], ?_⟩
  change scanner.position + (scanner.rest.takeWhile Text.isBlank).length = _
  rw [whole]

theorem scanToken_of_nil (none : scanner.rest = []) :
    scanner.scanToken = (.ok (.ending scanner.position), scanner) := by
  simp only [scanToken, none]

/-- A token of a text is a token of the text with blanks behind it. -/
theorem Before.extend (front : Before scanner token after)
    (place : scanner'.position = scanner.position) (rest : scanner'.rest = scanner.rest ++ trail)
    (blank : trail.all Text.isBlank = true) :
    Before scanner' token { scanner' with position := scanner'.position + token.raw.length } := by
  refine .of_rest (after.rest ++ trail) front.regular (front.starts.trans place.symm) ?_ ?_
  · rw [rest, front.written, List.append_assoc]
  · exact fun bare => endsWord_append (front.ends bare) (endsWord_of_blank blank)

/-- A token of a text with blanks behind it is a token of the text. -/
theorem Before.shorten (front : Before scanner' token after)
    (place : scanner'.position = scanner.position) (rest : scanner'.rest = scanner.rest ++ trail)
    (blank : trail.all Text.isBlank = true) :
    Before scanner token { scanner with position := scanner.position + token.raw.length } := by
  have written := front.written
  rw [rest] at written
  rcases front.regular.exists_between blank written with ⟨between, shown, behind⟩
  refine .of_rest between front.regular (front.starts.trans place) shown fun bare => ?_
  have ends := front.ends bare
  rw [behind] at ends
  exact ends.left

end Blanks

/-- An offset in a text and in the same text with more characters behind it.  Only
the end is not where it was. -/
def SamePlace (size more place place' : Nat) : Prop :=
  place < size ∧ place' = place ∨ place = size ∧ place' = size + more

/-- The second scanner reads the same text with blanks behind it. -/
structure Extended (text trail : List Char) (scanner scanner' : Scanner) : Prop where
  input : scanner.input = text
  input' : scanner'.input = text ++ trail
  position : scanner.position ≤ text.length ∧ scanner'.position = scanner.position ∨
    scanner.position = text.length ∧ scanner'.position = text.length + trail.length
  started : scanner'.sawToken = scanner.sawToken

/-- What a text has in common with the same text with blanks behind it.  A fault of
the scanner may have another cause, when the blanks are taken for part of a quoted
text. -/
def extendedLikeness (text trail : List Char) : Likeness where
  scanners := fun scanner scanner' => Extended text trail scanner scanner' ∧
    Option.Rel (fun token token' => token'.content = token.content ∧
      SamePlace text.length trail.length token.position token'.position)
      scanner.pushed scanner'.pushed
  places := SamePlace text.length trail.length
  faults := fun fault fault' => fault'.cause.stage = fault.cause.stage ∧
    (fault.cause.stage ≠ .lexical -> fault'.cause = fault.cause ∧
      fault'.fragment = fault.fragment ∧
        SamePlace text.length trail.length fault.position fault'.position)

namespace Extended

variable {text trail : List Char} {scanner scanner' : Scanner}

/-- Behind the blanks the two scanners stand at the same place of the text, or at
the ends of both. -/
theorem skipBlanks (extended : Extended text trail scanner scanner')
    (blank : trail.all Text.isBlank = true) :
    (scanner.skipBlanks.rest ≠ [] ∧ scanner.skipBlanks.position < text.length ∧
      scanner'.skipBlanks.position = scanner.skipBlanks.position ∧
        scanner'.skipBlanks.rest = scanner.skipBlanks.rest ++ trail) ∨
    (scanner.skipBlanks.rest = [] ∧ scanner'.skipBlanks.rest = [] ∧
      scanner.skipBlanks.position = text.length ∧
        scanner'.skipBlanks.position = text.length + trail.length) := by
  have rest : scanner.rest = text.drop scanner.position := by rw [Scanner.rest, extended.input]
  have size : scanner.rest.length = text.length - scanner.position := by
    rw [rest, List.length_drop]
  rcases extended.position with ⟨inside, same⟩ | ⟨atEnd, atEnd'⟩
  · have rest' : scanner'.rest = scanner.rest ++ trail := by
      rw [Scanner.rest, extended.input', same, List.drop_append_of_le_length inside, rest]
    by_cases all : forall c, c ∈ scanner.rest -> Text.isBlank c = true
    · right
      have all' : forall c, c ∈ scanner'.rest -> Text.isBlank c = true := by
        rw [rest', List.forall_mem_append]
        exact ⟨all, List.all_eq_true.mp blank⟩
      have skipped := skipBlanks_of_blank all
      have skipped' := skipBlanks_of_blank all'
      rw [rest', List.length_append] at skipped'
      exact ⟨skipped.1, skipped'.1, by omega, by omega⟩
    · left
      have ahead : scanner.rest.dropWhile Text.isBlank ≠ [] :=
        fun none => all (List.dropWhile_eq_nil_iff.mp none)
      have shorter : (scanner.rest.takeWhile Text.isBlank).length < scanner.rest.length := by
        have parts := List.takeWhile_append_dropWhile (p := Text.isBlank) (l := scanner.rest)
        have sizes := congrArg List.length parts
        rw [List.length_append] at sizes
        have positive := List.length_pos_iff.mpr ahead
        omega
      have skipped : scanner.skipBlanks.position =
          scanner.position + (scanner.rest.takeWhile Text.isBlank).length := rfl
      have skipped' : scanner'.skipBlanks.position =
          scanner'.position + (scanner'.rest.takeWhile Text.isBlank).length := rfl
      rw [rest_skipBlanks, rest_skipBlanks]
      refine ⟨ahead, by omega, ?_, ?_⟩
      · rw [skipped', skipped, same, rest', List.takeWhile_append, if_neg (by omega)]
      · rw [rest', List.dropWhile_append, if_neg (by rwa [List.isEmpty_iff])]
  · right
    have none : scanner.rest = [] := by
      rw [rest, atEnd, List.drop_length]
    have none' : scanner'.rest = [] := by
      rw [Scanner.rest, extended.input', atEnd', <- List.length_append, List.drop_length]
    have all : forall c, c ∈ scanner.rest -> Text.isBlank c = true := by simp [none]
    have all' : forall c, c ∈ scanner'.rest -> Text.isBlank c = true := by simp [none']
    have skipped := skipBlanks_of_blank all
    have skipped' := skipBlanks_of_blank all'
    rw [none] at skipped
    rw [none'] at skipped'
    exact ⟨skipped.1, skipped'.1, skipped.2.trans atEnd, skipped'.2.trans atEnd'⟩

/-- Handing out a token keeps the likeness of the scanners. -/
theorem meets_handOut (extended : Extended text trail scanner scanner') {token token' : Token}
    (content : token'.content = token.content)
    (place : SamePlace text.length trail.length token.position token'.position) :
    (extendedLikeness text trail).Meets token token' (scanner.handOut token)
      (scanner'.handOut token') := by
  have kind : token'.isEnding = token.isEnding := by
    rw [Token.isEnding, Token.isEnding, Grammar.kind_of_content content]
  have started : (scanner'.sawToken || !token'.isEnding) =
      (scanner.sawToken || !token.isEnding) := by rw [extended.started, kind]
  exact
    { content := content
      place := place
      alike := ⟨⟨extended.input, extended.input', extended.position, started⟩, .none⟩
      back := ⟨⟨extended.input, extended.input', extended.position, started⟩,
        .some ⟨content, place⟩⟩
      blank := fun _ => congrArg not started }

/-- One step of both scanners.  They find the same token, or both find a fault. -/
theorem next (extended : Extended text trail scanner scanner')
    (blank : trail.all Text.isBlank = true) (free : scanner.pushed = none)
    (free' : scanner'.pushed = none) :
    (extendedLikeness text trail).NextAgrees scanner scanner' := by
  rcases extended.skipBlanks blank with ⟨ahead, inside, same, rest'⟩ | ⟨none, none', atEnd, atEnd'⟩
  · rcases scanned : scanner.skipBlanks.scanToken with ⟨result, after⟩
    cases result with
    | ok token =>
        rcases before_of_scanToken scanned with ⟨none, _⟩ | front
        · exact absurd none ahead
        · have front' := front.extend same rest' blank
          have place : token.position < text.length := by
            rw [front.starts]
            exact inside
          have reached : Extended text trail after
              { scanner'.skipBlanks with
                position := scanner'.skipBlanks.position + token.raw.length } := by
            have size := congrArg List.length front.written
            rw [List.length_append, Scanner.rest, List.length_drop,
              show scanner.skipBlanks.input = text from extended.input] at size
            rw [front.moved]
            refine ⟨extended.input, extended.input', Or.inl ⟨?_, ?_⟩, extended.started⟩
            · simp only
              omega
            · simp only [same]
          exact .token (next_of_before free front) (next_of_before free' front')
            (reached.meets_handOut rfl (Or.inl ⟨place, rfl⟩))
    | error fault =>
        rcases scanned' : scanner'.skipBlanks.scanToken with ⟨result', after'⟩
        have failed := next_of_scanToken_error free scanned
        cases result' with
        | ok token =>
            -- The token is complete without the blanks as well.
            rcases before_of_scanToken scanned' with ⟨none, _⟩ | front
            · rw [rest'] at none
              exact absurd (List.append_eq_nil_iff.mp none).1 ahead
            · rw [(front.shorten same rest' blank).scanToken] at scanned
              cases scanned
        | error fault' =>
            have failed' := next_of_scanToken_error free' scanned'
            have lexical := next_error failed
            exact .fault failed failed' ⟨(next_error failed').trans lexical.symm,
              fun other => absurd lexical other⟩
  · have read := next_of_scanToken free (scanToken_of_nil none)
    have read' := next_of_scanToken free' (scanToken_of_nil none')
    have reached : Extended text trail scanner.skipBlanks scanner'.skipBlanks :=
      ⟨extended.input, extended.input', Or.inr ⟨atEnd, atEnd'⟩, extended.started⟩
    exact .token read read' (reached.meets_handOut rfl (Or.inr ⟨atEnd, atEnd'⟩))

end Extended

/-- Reading a text by itself and with blanks behind it. -/
def extendedPairing (text : List Char) {trail : List Char}
    (blank : trail.all Text.isBlank = true) : Pairing where
  toLikeness := extendedLikeness text trail
  step := by
    rintro scanner scanner' ⟨extended, waiting⟩
    cases pushed : scanner.pushed with
    | some token =>
        cases pushed' : scanner'.pushed with
        | none =>
            rw [pushed, pushed'] at waiting
            cases waiting
        | some token' =>
            rw [pushed, pushed'] at waiting
            rcases waiting with ⟨content, place⟩
            exact .token (next_of_pushed pushed) (next_of_pushed pushed')
              (extended.meets_handOut content place)
    | none =>
        cases pushed' : scanner'.pushed with
        | none => exact extended.next blank pushed pushed'
        | some token' =>
            rw [pushed, pushed'] at waiting
            cases waiting
  faultAt := fun _ _ text place => ⟨rfl, fun _ => ⟨rfl, text, place⟩⟩

end Scanner

namespace Parser

open ParseM

/-- A query is read from the next step on. -/
theorem runOn_query_of_next [Pattern.Engine] {scanner scanner' : Scanner}
    (same : scanner.next = scanner'.next) :
    query.runOn scanner = query.runOn scanner' := by
  have inTerm : term.runOn scanner = term.runOn scanner' := by
    rw [term, runOn_bind, runOn_bind, runOn_next, runOn_next, same]
  have inSet : termSet.runOn scanner = termSet.runOn scanner' := by
    rw [termSet, runOn_bind, runOn_bind, inTerm]
  have inWord : wordPosition.runOn scanner = wordPosition.runOn scanner' := by
    rw [wordPosition, runOn_bind, runOn_bind, inSet]
  have inPhrase : phrase.runOn scanner = phrase.runOn scanner' := by
    rw [phrase, runOn_bind, runOn_bind, inWord]
  rw [query, runOn_bind, runOn_bind, inPhrase]

end Parser

/-! ## Blanks in front -/

namespace Scanner

/-- Behind blanks at its start, a text is read as if it began there. -/
theorem query_behind_blanks [Pattern.Engine] {lead : String}
    (blank : lead.toList.all Text.isBlank = true)
    (text : String) :
    (behindPairing lead).Agrees Eq (Parser.query.runOn (.ofText text))
      (Parser.query.runOn (.ofText (lead ++ text))) := by
  have stands : At (.ofText (lead ++ text)) (lead.toList ++ text.toList) := by
    rw [<- String.toList_append]
    exact at_ofText (lead ++ text)
  have behind : Behind lead (.ofText text)
      { ofText (lead ++ text) with position := 0 + lead.toList.length } := by
    refine ⟨⟨String.toList_append, ?_⟩, rfl, Or.inl rfl⟩
    rw [String.length_toList, Nat.zero_add]
    rfl
  rw [Parser.runOn_query_of_next (next_of_blanks stands blank)]
  exact Pairing.query_mirrors _ behind

/-- Blanks at the end of a text add nothing to it. -/
theorem query_before_blanks [Pattern.Engine] (text : String) {trail : String}
    (blank : trail.toList.all Text.isBlank = true) :
    (extendedPairing text.toList blank).Agrees Eq (Parser.query.runOn (.ofText text))
      (Parser.query.runOn (.ofText (text ++ trail))) := by
  have extended : Extended text.toList trail.toList (.ofText text) (.ofText (text ++ trail)) :=
    ⟨rfl, String.toList_append, Or.inl ⟨Nat.zero_le _, rfl⟩, rfl⟩
  exact Pairing.query_mirrors _ ⟨extended, .none⟩

/-! ## Places of tokens -/

/-- The scanner hands out this token behind others of the text. -/
def HandsOut (scanner : Scanner) (token : Token) : Prop :=
  Exists fun passed => Exists fun last => Exists fun after =>
    (forall token, token ∈ passed -> token.isEnding = false) ∧ Steps scanner passed last ∧
      last.next = (.ok token, after)

theorem Steps.position_lt {scanner last after : Scanner} {tokens : List Token} {token : Token}
    (steps : Steps scanner tokens last) (free : scanner.pushed = none)
    (inside : forall token, token ∈ tokens -> token.isEnding = false)
    (read : last.next = (.ok token, after)) (visible : token.isEnding = false) :
    token.position < scanner.position + scanner.rest.length := by
  induction steps with
  | done same =>
      rcases next_spaced free (same.trans read) with
        ⟨blanks, _, starts, ⟨ending, _⟩ | ⟨regular, whole, _⟩⟩
      · rw [visible] at ending
        cases ending
      · have positive := List.length_pos_iff.mpr regular.raw_ne_nil
        rw [starts, whole, List.length_append, List.length_append]
        omega
  | @token scanner between after first tokens next later ih =>
      have parts := List.forall_mem_cons.mp inside
      rcases next_spaced free next with
        ⟨blanks, _, starts, ⟨ending, _⟩ | ⟨_, whole, _, moved⟩⟩
      · rw [parts.1] at ending
        cases ending
      · have earlier := ih (next_pushed next) parts.2 read
        rw [moved, starts] at earlier
        rw [whole, List.length_append, List.length_append]
        omega

/-- Only the end of a text stands at the end of the text. -/
theorem HandsOut.position {text : String} {token : Token} (found : HandsOut (.ofText text) token) :
    (token.isEnding = false -> token.position < text.length) ∧
      (token.isEnding = true -> token.position = text.length) := by
  rcases found with ⟨passed, last, after, inside, steps, read⟩
  rw [<- String.length_toList]
  constructor
  · intro visible
    have before := steps.position_lt rfl inside read visible
    rwa [show (ofText text).position = 0 from rfl, Nat.zero_add] at before
  · intro ending
    rcases steps.spaced rfl inside read with ⟨front, behind, whole, _, starts, nothing⟩
    rw [nothing ending, List.append_nil] at whole
    rw [starts, <- whole]
    exact Nat.zero_add _

end Scanner

/-! ## Trimmed queries -/

namespace Query

/-- Reading a text and reading what trimming leaves of it. -/
theorem parse_trim_cases [Pattern.Engine] (text : String) :
    (Exists fun query => parse (Text.trim text) = .ok query ∧ parse text = .ok query) ∨
      Exists fun trimmed => Exists fun fault =>
        parse (Text.trim text) = .error trimmed ∧ parse text = .error fault ∧
          fault.cause.stage = trimmed.cause.stage ∧
            (trimmed.cause.stage ≠ .lexical -> fault.cause = trimmed.cause ∧
              fault.fragment = trimmed.fragment ∧
                ((fault.position < text.length ∧ fault.position =
                    (text.toList.takeWhile Text.isBlank).length + trimmed.position) ∨
                  (fault.position = text.length ∧
                    trimmed.position = (Text.trim text).length))) := by
  rcases Text.exists_blanks text with ⟨trail, blank, whole⟩
  have blank' : (String.ofList (text.toList.takeWhile Text.isBlank)).toList.all Text.isBlank =
      true := by
    rw [String.toList_ofList]
    exact List.all_takeWhile
  have size := congrArg String.length whole
  rw [String.length_append, String.length_append, String.length_ofList] at size
  have behind := Scanner.query_behind_blanks blank' (Text.trim text ++ trail)
  have before := Scanner.query_before_blanks (Text.trim text) blank
  rw [<- whole] at behind
  rcases short : Parser.query.runOn (.ofText (Text.trim text)) with ⟨trimmed, after⟩
  rcases middle : Parser.query.runOn (.ofText (Text.trim text ++ trail)) with ⟨extended, after'⟩
  rcases long : Parser.query.runOn (.ofText text) with ⟨result, after''⟩
  rw [short, middle] at before
  rw [middle, long] at behind
  rw [parse, short, parse, long]
  cases before with
  | items same _ =>
      cases same
      cases behind with
      | items same _ => exact Or.inl ⟨_, rfl, congrArg Except.ok same.symm⟩
  | @faults trimmed extended _ _ related =>
      cases behind with
      | @faults _ fault _ _ moved =>
          have shown : fault = extended.behind
              (String.ofList (text.toList.takeWhile Text.isBlank)) := moved
          rcases related with ⟨stage, known⟩
          refine Or.inr ⟨trimmed, fault, rfl, rfl, by rw [shown]; exact stage, fun blames => ?_⟩
          rcases known blames with ⟨cause, fragment, place⟩
          have position : fault.position =
              (text.toList.takeWhile Text.isBlank).length + extended.position := by
            rw [shown, <- String.length_ofList]
            rfl
          refine ⟨by rw [shown]; exact cause, by rw [shown]; exact fragment, ?_⟩
          rw [String.length_toList, String.length_toList] at place
          rcases place with ⟨inside, same⟩ | ⟨atEnd, moved⟩
          · exact Or.inl ⟨by omega, by omega⟩
          · exact Or.inr ⟨by omega, atEnd⟩

end Query

namespace Command

/-- Commands read the same queries as readers of the untrimmed text, and fail where
these fail.  Apart from faults of the scanner, the causes and fragments are the
same.  The places differ by the blanks in front, unless the text ends too soon: its
end is where it is in either text. -/
theorem parseTrimmed_agrees [Pattern.Engine] (text : String) :
    (forall query, parseTrimmed text = .ok query <-> Query.parse text = .ok query) ∧
      (forall fault, Query.parse text = .error fault -> Exists fun trimmed =>
        parseTrimmed text = .error (.query trimmed) ∧ trimmed.cause.stage = fault.cause.stage ∧
          (fault.cause.stage ≠ .lexical ->
            trimmed.cause = fault.cause ∧ trimmed.fragment = fault.fragment ∧
              Exists fun token => Scanner.HandsOut (.ofText text) token ∧
                token.position = fault.position ∧
                (token.isEnding = false -> fault.position =
                  (text.toList.takeWhile Text.isBlank).length + trimmed.position) ∧
                (token.isEnding = true -> fault.position = text.length ∧
                  trimmed.position = (Text.trim text).length))) := by
  rcases Query.parse_trim_cases text with ⟨query, short, long⟩ | ⟨trimmed, fault, short, long, same⟩
  · have command : parseTrimmed text = .ok query := by rw [parseTrimmed, short]; rfl
    refine ⟨fun other => ?_, fun fault failed => ?_⟩
    · rw [command, long, Except.ok.injEq, Except.ok.injEq]
    · rw [long] at failed
      cases failed
  · have command : parseTrimmed text = .error (.query trimmed) := by rw [parseTrimmed, short]; rfl
    refine ⟨fun other => ?_, fun fault' failed => ?_⟩
    · rw [command, long]
      constructor <;> intro impossible <;> cases impossible
    · rw [long] at failed
      cases failed
      rcases same with ⟨stage, known⟩
      refine ⟨trimmed, command, stage.symm, fun blames => ?_⟩
      rcases known (by rw [<- stage]; exact blames) with ⟨cause, fragment, place⟩
      rcases Query.blames_of_parse long blames with ⟨passed, ⟨inside, _, found⟩, _⟩
      rcases found with ⟨last, after, token, steps, read, position, _⟩
      have handsOut : Scanner.HandsOut (.ofText text) token :=
        ⟨passed, last, after, inside, steps, read⟩
      have bounds := handsOut.position
      rw [<- position] at bounds
      refine ⟨cause.symm, fragment.symm, token, handsOut, position.symm, ?_, ?_⟩
      · intro visible
        have before := bounds.1 visible
        rcases place with ⟨_, moved⟩ | ⟨atEnd, _⟩
        · exact moved
        · omega
      · intro ending
        have atEnd := bounds.2 ending
        rcases place with ⟨before, _⟩ | same
        · omega
        · exact same

/-- A letter that the attribute does not have is blamed two places further on when
the blanks are kept.  A blank behind a backslash is what the scanner blames; without
it the quoted text has no end. -/
theorem parseTrimmed_agrees_of_blanks :
    (Query.parse "  mor(q) " = .error ⟨.badCategory, "q", "  mor(", 6⟩ ∧
      Exists fun trimmed => parseTrimmed "  mor(q) " = .error (.query trimmed) ∧
        trimmed.cause = .badCategory ∧ trimmed.fragment = "q" ∧ trimmed.position = 4) ∧
    (Query.parse " \"\\ " = .error ⟨.invalidEscape ' ', "\"\\ ", " ", 3⟩ ∧
      Exists fun trimmed => parseTrimmed " \"\\ " = .error (.query trimmed) ∧
        trimmed.cause.stage = .lexical) := by
  constructor
  · have found : Query.fault? "  mor(q) " = some ⟨.badCategory, "q", "  mor(", 6⟩ := by
      decide +kernel
    have rejected := Query.parse_of_fault? found
    rcases (parseTrimmed_agrees "  mor(q) ").2 _ rejected with ⟨trimmed, command, _, known⟩
    rcases known (by decide) with ⟨cause, fragment, token, _, _, inside, ending⟩
    refine ⟨rejected, trimmed, command, cause, fragment, ?_⟩
    cases last : token.isEnding with
    | true => exact absurd (ending last).1 (by decide)
    | false =>
        have moved := inside last
        have lead : (("  mor(q) ").toList.takeWhile Text.isBlank).length = 2 := by decide +kernel
        rw [lead] at moved
        change 6 = 2 + trimmed.position at moved
        omega
  · have found : Query.fault? " \"\\ " = some ⟨.invalidEscape ' ', "\"\\ ", " ", 3⟩ := by
      decide +kernel
    have rejected := Query.parse_of_fault? found
    rcases (parseTrimmed_agrees " \"\\ ").2 _ rejected with ⟨trimmed, command, stage, _⟩
    exact ⟨rejected, trimmed, command, stage⟩

end Command
end CorpusQuery
