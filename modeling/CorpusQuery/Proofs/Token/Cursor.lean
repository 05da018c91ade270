import CorpusQuery.Proofs.Token.Spaced

namespace CorpusQuery

/-!
# A scanner is a cursor

A scanner keeps four things besides its text: how far it has read, the token it
handed out last, a token that was taken back, and whether there was any token yet.
To its users it is a cursor on the tokens of the text.  Asking for a token moves
the cursor one place on, and taking a token back moves it one place back, once.

The tokens of the text are found by scanning alone (`scanAll`), without anything
of the above.  All tokens in front of a scanner, to be had by asking again and
again, are `ahead`.  A step takes the first of them away and taking a token back
puts it there again, so that a scanner and a cursor can be followed side by side.
-/

namespace Scanner

/-! ## Scanning alone -/

/-- Scan again and again, up to the end of the text or a fault. -/
def scanAll : Nat -> Scanner -> List (Except Fault Token)
  | 0, _ => []
  | bound + 1, scanner =>
    match scanner.scan with
    | (.ok token, after) =>
      if token.isEnding then [.ok token] else .ok token :: scanAll bound after
    | (.error fault, _) => [.error fault]

/-- The tokens of a text by scanning alone. -/
def plainTokens (text : String) : List (Except Fault Token) :=
  scanAll (text.length + 1) (ofText text)

/-- The same text at the same position, whatever else is different. -/
structure Abreast (scanner other : Scanner) : Prop where
  input : other.input = scanner.input
  position : other.position = scanner.position

theorem Abreast.rest {scanner other : Scanner} (same : Abreast scanner other) :
    other.rest = scanner.rest := by
  rw [Scanner.rest, Scanner.rest, same.input, same.position]

theorem Abreast.skipBlanks {scanner other : Scanner} (same : Abreast scanner other) :
    Abreast scanner.skipBlanks other.skipBlanks := by
  refine ⟨same.input, ?_⟩
  unfold Scanner.skipBlanks
  rw [same.rest, same.position]

theorem Abreast.scanToken {scanner other : Scanner} (same : Abreast scanner other) :
    other.scanToken.1 = scanner.scanToken.1 ∧
      Abreast scanner.scanToken.2 other.scanToken.2 := by
  rcases scanner with ⟨input, position, last, pushed, saw⟩
  rcases other with ⟨input', position', last', pushed', saw'⟩
  cases same.input
  cases same.position
  unfold Scanner.scanToken
  simp only [Scanner.rest]
  cases input.drop position with
  | nil => exact ⟨rfl, rfl, rfl⟩
  | cons c after =>
      dsimp only
      cases Mark.ofChar? c with
      | some mark => exact ⟨rfl, rfl, rfl⟩
      | none =>
          dsimp only
          by_cases quote : c = '"'
          · rw [if_pos quote, if_pos quote]
            cases quotedEnd after with
            | closed text length => exact ⟨rfl, rfl, rfl⟩
            | badEscape bad length => exact ⟨rfl, rfl, rfl⟩
            | unterminated length => exact ⟨rfl, rfl, rfl⟩
          · rw [if_neg quote, if_neg quote]
            cases isWordChar c with
            | true => exact ⟨rfl, rfl, rfl⟩
            | false => exact ⟨rfl, rfl, rfl⟩

theorem scanAll_congr (bound : Nat) {scanner other : Scanner} (same : Abreast scanner other) :
    scanAll bound other = scanAll bound scanner := by
  induction bound generalizing scanner other with
  | zero => rfl
  | succ bound ih =>
      rcases same.skipBlanks.scanToken with ⟨result, place⟩
      unfold scanAll scan
      rcases scanned : scanner.skipBlanks.scanToken with ⟨found, after⟩
      rcases scanned' : other.skipBlanks.scanToken with ⟨found', after'⟩
      rw [scanned, scanned'] at result place
      change found' = found at result
      subst result
      cases found' with
      | error fault => rfl
      | ok token => simp only [ih place]

/-- Handing out tokens one after another, none of them being taken back, is scanning
again and again. -/
theorem drain_eq_scanAll (bound : Nat) {scanner : Scanner} (free : scanner.pushed = none) :
    drain bound scanner = scanAll bound scanner := by
  induction bound generalizing scanner with
  | zero => rfl
  | succ bound ih =>
      unfold drain scanAll next
      rw [free]
      rcases scanned : scanner.scan with ⟨result, after⟩
      cases result with
      | error fault => rfl
      | ok token =>
          have place : Abreast after (after.handOut token) := ⟨rfl, rfl⟩
          have later : drain bound (after.handOut token) = scanAll bound after :=
            (ih rfl).trans (scanAll_congr bound place)
          simp only [later]

theorem tokens_eq (text : String) : tokens text = plainTokens text :=
  drain_eq_scanAll (text.length + 1) rfl

/-! ## The tokens ahead -/

/-- The tokens that a scanner hands out when it is asked again and again.  A fault
stays where it is. -/
def ahead (scanner : Scanner) : Nat -> Except Fault Token
  | 0 => scanner.next.1
  | count + 1 =>
    match scanner.next with
    | (.ok _, after) => after.ahead count
    | (.error fault, _) => .error fault

theorem ahead_congr {scanner other : Scanner} (same : scanner.next = other.next) :
    scanner.ahead = other.ahead := by
  funext count
  cases count with
  | zero => rw [ahead, ahead, same]
  | succ count => rw [ahead, ahead, same]

theorem ahead_zero {scanner after : Scanner} {token : Token}
    (read : scanner.next = (.ok token, after)) : scanner.ahead 0 = .ok token := by
  rw [ahead, read]

theorem ahead_succ {scanner after : Scanner} {token : Token}
    (read : scanner.next = (.ok token, after)) (count : Nat) :
    scanner.ahead (count + 1) = after.ahead count := by
  rw [ahead, read]

/-- A fault in front is all there is. -/
theorem ahead_fault {scanner after : Scanner} {fault : Fault}
    (failed : scanner.next = (.error fault, after)) : scanner.ahead = fun _ => .error fault := by
  funext count
  cases count with
  | zero => rw [ahead, failed]
  | succ count => rw [ahead, failed]

theorem next_spent {scanner : Scanner} (free : scanner.pushed = none) (spent : scanner.rest = []) :
    scanner.next =
      (.ok (.ending scanner.position), scanner.handOut (.ending scanner.position)) := by
  have stays : scanner.skipBlanks = scanner := by
    unfold skipBlanks
    rw [spent]
    rfl
  apply next_of_scanToken free
  rw [stays, scanToken, spent]

/-- So is the end of the text: it is handed out over and over. -/
theorem ahead_spent {scanner : Scanner} (free : scanner.pushed = none) (spent : scanner.rest = [])
    (count : Nat) : scanner.ahead count = .ok (.ending scanner.position) := by
  induction count generalizing scanner with
  | zero => exact ahead_zero (next_spent free spent)
  | succ count ih =>
      rw [ahead_succ (next_spent free spent)]
      exact ih rfl spent

theorem ahead_ending {scanner after : Scanner} {ending : Token} (free : scanner.pushed = none)
    (scanned : scanner.scan = (.ok ending, after)) (atEnd : ending.isEnding = true) :
    scanner.ahead = fun _ => .ok ending := by
  have read := next_of_scanToken free scanned
  rcases before_of_scanToken scanned with ⟨spent, rfl, rfl⟩ | front
  · funext count
    cases count with
    | zero => exact ahead_zero read
    | succ count =>
        rw [ahead_succ read]
        exact @ahead_spent (scanner.skipBlanks.handOut _) rfl spent count
  · rw [Token.Regular.isEnding front.regular] at atEnd
    cases atEnd

/-- What stands ahead of a scanner that has nothing to hand out again is what
scanning alone finds, its last entry being repeated without end. -/
theorem exists_ahead (bound : Nat) {scanner : Scanner} (free : scanner.pushed = none)
    (enough : scanner.rest.length < bound) :
    Exists fun tokens : List Token => Exists fun last : Except Fault Token =>
      scanAll bound scanner = tokens.map .ok ++ [last] ∧
        (forall token, token ∈ tokens -> token.isEnding = false) ∧
        (forall token, last = .ok token -> token.isEnding = true) ∧
        scanner.ahead = fun place => (tokens[place]?.map .ok).getD last := by
  induction bound generalizing scanner with
  | zero => cases enough
  | succ bound ih =>
      unfold scanAll
      rcases scanned : scanner.scan with ⟨result, after⟩
      cases result with
      | error fault =>
          refine ⟨[], .error fault, rfl, fun token impossible => absurd impossible List.not_mem_nil,
            ?_, ahead_fault (next_of_scanToken_error free scanned)⟩
          intro token impossible
          cases impossible
      | ok token =>
          cases atEnd : token.isEnding with
          | true =>
              refine ⟨[], .ok token, if_pos atEnd,
                fun token impossible => absurd impossible List.not_mem_nil, ?_,
                ahead_ending free scanned atEnd⟩
              intro other same
              cases same
              exact atEnd
          | false =>
              have progress := scan_progress scanned atEnd
              have place : Abreast after (after.handOut token) := ⟨rfl, rfl⟩
              have shorter : (after.handOut token).rest.length < bound := by
                rw [place.rest]
                omega
              rcases ih rfl shorter with ⟨tokens, last, listed, inside, ends, follows⟩
              rw [scanAll_congr bound place] at listed
              refine ⟨token :: tokens, last, ?_, List.forall_mem_cons.mpr ⟨atEnd, inside⟩, ends, ?_⟩
              · simp only [atEnd, listed]
                rfl
              · have read := next_of_scanToken free scanned
                funext place
                cases place with
                | zero => exact ahead_zero read
                | succ place =>
                    rw [ahead_succ read, follows]
                    rfl

/-- The tokens of a text by scanning alone, of which the last, the end of the text
or a fault, is repeated without end. -/
def stream (text : String) (place : Nat) : Except Fault Token :=
  ((plainTokens text)[place]?.or (plainTokens text).getLast?).getD (.ok (.ending text.length))

theorem enough_ofText (text : String) : (ofText text).rest.length < text.length + 1 := by
  rw [(at_ofText text).2, String.length_toList]
  exact Nat.lt_succ_self _

theorem ahead_ofText (text : String) : (ofText text).ahead = stream text := by
  rcases exists_ahead (text.length + 1) rfl (enough_ofText text) with
    ⟨tokens, last, listed, _, _, ahead⟩
  rw [ahead]
  funext place
  unfold stream plainTokens
  rw [listed, List.getLast?_concat]
  by_cases inside : place < tokens.length
  · rw [List.getElem?_append_left (by rwa [List.length_map]), List.getElem?_map,
      List.getElem?_eq_getElem inside]
    rfl
  · rw [List.getElem?_eq_none (Nat.le_of_not_lt inside)]
    -- Behind the tokens the last entry is found in the list, or it is repeated.
    by_cases here : place = tokens.length
    · have counted : place = (tokens.map Except.ok : List (Except Fault Token)).length := by
        rw [here, List.length_map]
      rw [counted, List.getElem?_concat_length]
      rfl
    · have beyond : (tokens.map Except.ok ++ [last]).length ≤ place := by
        rw [List.length_append, List.length_map, List.length_singleton]
        omega
      rw [List.getElem?_eq_none beyond]
      rfl

/-- What stands ahead of the scanner is the stream from a place on. -/
def Faces (stream : Nat -> Except Fault Token) (scanner : Scanner) (place : Nat) : Prop :=
  scanner.ahead = fun count => stream (place + count)

namespace Faces

variable {stream : Nat -> Except Fault Token} {scanner : Scanner} {place : Nat}

theorem here (faces : Faces stream scanner place) : scanner.next.1 = stream place := by
  have first := congrFun faces 0
  rwa [ahead, Nat.add_zero] at first

theorem next (faces : Faces stream scanner place) {token : Token} {after : Scanner}
    (read : scanner.next = (.ok token, after)) : Faces stream after (place + 1) := by
  funext count
  have same := congrFun faces (count + 1)
  rw [ahead_succ read] at same
  rw [same, Nat.add_right_comm, Nat.add_assoc]

theorem congr (faces : Faces stream scanner place) {other : Scanner}
    (same : scanner.next = other.next) : Faces stream other place :=
  (ahead_congr same.symm).trans faces

end Faces

theorem faces_ofText (text : String) : Faces (stream text) (ofText text) 0 := by
  rw [Faces, ahead_ofText]
  funext count
  rw [Nat.zero_add]

theorem isBlank_of_next {scanner after : Scanner} {token : Token}
    (read : scanner.next = (.ok token, after)) :
    after.isBlank = (token.isEnding && scanner.isBlank) := by
  have shown : forall between : Scanner, between.sawToken = scanner.sawToken ->
      (between.handOut token).isBlank = (token.isEnding && scanner.isBlank) := by
    intro between same
    rw [isBlank, isBlank, handOut, same, Bool.not_or, Bool.not_not, Bool.and_comm]
  rcases next_cases read with ⟨_, rfl⟩ | ⟨_, between, scanned, rfl⟩
  · exact shown scanner rfl
  · apply shown between
    have kept := scanToken_sawToken scanner.skipBlanks
    rw [<- scan, scanned] at kept
    exact kept

theorem pushBack_pushBack (scanner : Scanner) : scanner.pushBack.pushBack = scanner.pushBack := by
  rcases scanner with ⟨input, position, last, pushed, saw⟩
  cases pushed with
  | some token => rfl
  | none => cases last <;> rfl

end Scanner

/-! ## Calls and their answers -/

inductive Call where
  | next
  | pushBack
  | isBlank

inductive Answer where
  | token (given : Token)
  | fault (met : Fault)
  | done
  | blank (holds : Bool)

/-- What asking for a token has found, as an answer. -/
def Answer.ofFound : Except Fault Token -> Answer
  | .ok given => .token given
  | .error met => .fault met

/-- The answers to calls made one after another, up to the first fault. -/
def answers {σ : Type} (answer : σ -> Call -> Answer × σ) : σ -> List Call -> List Answer
  | _, [] => []
  | state, call :: calls =>
    match answer state call with
    | (.fault fault, _) => [.fault fault]
    | (given, after) => given :: answers answer after calls

def Scanner.answer (scanner : Scanner) : Call -> Answer × Scanner
  | .next => (.ofFound scanner.next.1, scanner.next.2)
  | .pushBack => (.done, scanner.pushBack)
  | .isBlank => (.blank scanner.isBlank, scanner)

/-- A place in a stream of tokens, with what calls have done so far. -/
structure Cursor where
  place : Nat
  /-- The latest call that moves a cursor was one for a token. -/
  advanced : Bool
  /-- The tokens given out so far, the latest first. -/
  returned : List Token

namespace Cursor

def start : Cursor :=
  ⟨0, false, []⟩

def answer (stream : Nat -> Except Fault Token) (cursor : Cursor) : Call -> Answer × Cursor
  | .next =>
    match stream cursor.place with
    | .ok token => (.token token, ⟨cursor.place + 1, true, token :: cursor.returned⟩)
    | .error fault => (.fault fault, cursor)
  | .pushBack =>
    (.done, if cursor.advanced then ⟨cursor.place - 1, false, cursor.returned⟩ else cursor)
  | .isBlank => (.blank (cursor.returned.all Token.isEnding), cursor)

end Cursor

/-- A scanner stands where a cursor does.  Besides the tokens ahead this says what
taking a token back would lead to. -/
structure Refines (stream : Nat -> Except Fault Token) (scanner : Scanner) (cursor : Cursor) :
    Prop where
  faces : scanner.Faces stream cursor.place
  undo : cursor.advanced = true -> Exists fun place =>
    cursor.place = place + 1 ∧ scanner.pushBack.Faces stream place
  idle : cursor.advanced = false -> scanner.pushBack = scanner
  blank : scanner.isBlank = cursor.returned.all Token.isEnding

namespace Refines

variable {stream : Nat -> Except Fault Token} {scanner : Scanner} {cursor : Cursor}

theorem next (refines : Refines stream scanner cursor) {token : Token} {after : Scanner}
    (read : scanner.next = (.ok token, after)) :
    Refines stream after ⟨cursor.place + 1, true, token :: cursor.returned⟩ where
  faces := refines.faces.next read
  undo _ := ⟨cursor.place, rfl, refines.faces.congr (Scanner.next_pushBack read).symm⟩
  idle impossible := by cases impossible
  blank := by rw [Scanner.isBlank_of_next read, refines.blank, List.all_cons]

theorem pushBack (refines : Refines stream scanner cursor) :
    Refines stream scanner.pushBack (cursor.answer stream .pushBack).2 := by
  have kept : scanner.pushBack.isBlank = scanner.isBlank := by
    unfold Scanner.pushBack
    cases scanner.pushed <;> rfl
  rw [Cursor.answer]
  by_cases moved : cursor.advanced = true
  · rcases refines.undo moved with ⟨place, before, faces⟩
    rw [if_pos moved, before]
    refine ⟨faces, ?_, fun _ => Scanner.pushBack_pushBack scanner, kept.trans refines.blank⟩
    intro impossible
    cases impossible
  · have stays := refines.idle (Bool.eq_false_iff.mpr moved)
    rw [if_neg moved, stays]
    exact refines

/-- A call is answered alike, and both go on alike unless it has met a fault. -/
theorem step (refines : Refines stream scanner cursor) (call : Call) :
    (scanner.answer call).1 = (cursor.answer stream call).1 ∧
      ((forall fault, (scanner.answer call).1 ≠ .fault fault) ->
        Refines stream (scanner.answer call).2 (cursor.answer stream call).2) := by
  cases call with
  | next =>
      rw [Scanner.answer, Cursor.answer, <- refines.faces.here]
      rcases read : scanner.next with ⟨result, after⟩
      cases result with
      | ok token => exact ⟨rfl, fun _ => refines.next read⟩
      | error fault => exact ⟨rfl, fun free => absurd rfl (free fault)⟩
  | pushBack => exact ⟨rfl, fun _ => refines.pushBack⟩
  | isBlank => exact ⟨congrArg Answer.blank refines.blank, fun _ => refines⟩

theorem run (refines : Refines stream scanner cursor) (calls : List Call) :
    answers Scanner.answer scanner calls = answers (Cursor.answer stream) cursor calls := by
  induction calls generalizing scanner cursor with
  | nil => rfl
  | cons call calls ih =>
      rcases refines.step call with ⟨same, later⟩
      rw [answers, answers]
      rcases given : scanner.answer call with ⟨answer, after⟩
      rcases given' : cursor.answer stream call with ⟨answer', after'⟩
      rw [given, given'] at same later
      change answer = answer' at same
      subst same
      cases answer with
      | fault fault => rfl
      | token token => exact congrArg _ (ih (later fun fault impossible => by cases impossible))
      | done => exact congrArg _ (ih (later fun fault impossible => by cases impossible))
      | blank holds => exact congrArg _ (ih (later fun fault impossible => by cases impossible))

end Refines

namespace Scanner

/-- A scanner that has read nothing stands where a cursor starts. -/
theorem refines_ofText (text : String) : Refines (stream text) (ofText text) .start where
  faces := faces_ofText text
  undo impossible := by cases impossible
  idle _ := rfl
  blank := rfl

/-- Whatever a scanner is asked for, up to the first fault it answers like a cursor
on the tokens found by scanning alone.  These end with the end of the text, unless
there is a fault. -/
theorem answers_cursor (text : String) (calls : List Call) :
    (Exists fun tokens : List Token => Exists fun last : Except Fault Token =>
      plainTokens text = tokens.map .ok ++ [last] ∧
        (forall token, token ∈ tokens -> token.isEnding = false) ∧
        (forall token, last = .ok token -> token.isEnding = true)) ∧
      answers answer (ofText text) calls = answers (Cursor.answer (stream text)) .start calls := by
  refine ⟨?_, (refines_ofText text).run calls⟩
  rcases exists_ahead (text.length + 1) rfl (enough_ofText text) with
    ⟨tokens, last, listed, inside, ends, _⟩
  exact ⟨tokens, last, listed, inside, ends⟩

end Scanner
end CorpusQuery
