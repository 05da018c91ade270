import CorpusQuery.Proofs.Token.Layout

namespace CorpusQuery
namespace Scanner

/-!
# The tokens ahead of a scanner

A reader of queries sees a scanner only through the tokens it hands out, apart
from the text itself.  Two scanners with the same `next` are therefore the same
to a reader, and taking a token back restores the scanner in this sense
(`next_pushBack`), although the offsets differ.

Scanning reads on and stays inside the text, also when it meets a fault (`Onward`).
`Steps` follows a scanner through a list of tokens up to that identification,
and `Yields` says that a scanner hands out a list of tokens and then the end of
the input, without a fault.  What bounds the loops of a reader is the number of
characters behind the next token: it falls with every token.
-/

/-! ## One step -/

/-- Skipping blanks passes exactly the blanks at the front of the rest. -/
theorem rest_skipBlanks (scanner : Scanner) :
    scanner.skipBlanks.rest = scanner.rest.dropWhile Text.isBlank := by
  unfold skipBlanks
  rw [rest_moveTo]
  have parts := List.takeWhile_append_dropWhile (p := Text.isBlank) (l := scanner.rest)
  calc
    scanner.rest.drop (scanner.rest.takeWhile Text.isBlank).length =
        (scanner.rest.takeWhile Text.isBlank ++ scanner.rest.dropWhile Text.isBlank).drop
          (scanner.rest.takeWhile Text.isBlank).length := by rw [parts]
    _ = scanner.rest.dropWhile Text.isBlank := List.drop_left

/-- Scanning changes nothing but the position. -/
theorem scanToken_moves (scanner : Scanner) :
    scanner.scanToken.2 = { scanner with position := scanner.scanToken.2.position } := by
  unfold scanToken
  repeat' split
  all_goals rfl

theorem scanToken_input (scanner : Scanner) : scanner.scanToken.2.input = scanner.input := by
  rw [scanToken_moves]

theorem scanToken_sawToken (scanner : Scanner) :
    scanner.scanToken.2.sawToken = scanner.sawToken := by
  rw [scanToken_moves]

/-! ## Reading on -/

/-- The same text, read on, and not beyond its end. -/
structure Onward (scanner after : Scanner) : Prop where
  input : after.input = scanner.input
  forward : scanner.position ≤ after.position
  inside : scanner.position ≤ scanner.input.length -> after.position ≤ scanner.input.length

namespace Onward

variable {scanner between after : Scanner}

theorem refl (scanner : Scanner) : Onward scanner scanner :=
  ⟨rfl, Nat.le_refl _, id⟩

theorem trans (first : Onward scanner between) (second : Onward between after) :
    Onward scanner after where
  input := second.input.trans first.input
  forward := Nat.le_trans first.forward second.forward
  inside := by
    intro start
    have halfway := first.inside start
    rw [<- first.input] at halfway ⊢
    exact second.inside halfway

/-- Characters that are not yet read may be passed. -/
theorem passing {count : Nat} (present : count ≤ scanner.rest.length) :
    Onward scanner { scanner with position := scanner.position + count } := by
  refine ⟨rfl, Nat.le_add_right _ _, fun start => ?_⟩
  rw [rest, List.length_drop] at present
  change scanner.position + count ≤ scanner.input.length
  omega

theorem rest_le (onward : Onward scanner after) : after.rest.length ≤ scanner.rest.length := by
  simp only [rest, List.length_drop, onward.input]
  exact Nat.sub_le_sub_left onward.forward _

end Onward

theorem onward_skipBlanks (scanner : Scanner) : Onward scanner scanner.skipBlanks :=
  .passing (List.takeWhile_prefix Text.isBlank).length_le

theorem onward_scanToken (scanner : Scanner) : Onward scanner scanner.scanToken.2 := by
  rcases scanned : scanner.scanToken with ⟨result, after⟩
  cases result with
  | ok token =>
      rcases before_of_scanToken scanned with ⟨_, _, rfl⟩ | front
      · exact .refl after
      · rw [front.moved]
        apply Onward.passing
        rw [front.written, List.length_append]
        exact Nat.le_add_right _ _
  | error fault =>
      rcases (raised_of_scanToken scanned).passed with ⟨count, present, rfl⟩
      exact .passing present

/-- Scanning never goes back and never leaves the text, not even when it meets a
fault. -/
theorem onward_scan (scanner : Scanner) : Onward scanner scanner.scan.2 :=
  (onward_skipBlanks scanner).trans (onward_scanToken scanner.skipBlanks)

/-! ## Handing out tokens -/

/-- What a successful step was: the token had been taken back, or the text was
scanned for it. -/
theorem next_cases {scanner after : Scanner} {token : Token}
    (read : scanner.next = (.ok token, after)) :
    (scanner.pushed = some token ∧ after = scanner.handOut token) ∨
      (scanner.pushed = none ∧ Exists fun between =>
        scanner.scan = (.ok token, between) ∧ after = between.handOut token) := by
  unfold next at read
  cases pushed : scanner.pushed with
  | some waiting =>
      simp only [pushed, Prod.mk.injEq, Except.ok.injEq] at read
      rcases read with ⟨rfl, rfl⟩
      exact Or.inl ⟨rfl, rfl⟩
  | none =>
      rcases scanned : scanner.scan with ⟨result, between⟩
      cases result with
      | error fault =>
          simp only [pushed, scanned, Prod.mk.injEq] at read
          cases read.1
      | ok found =>
          simp only [pushed, scanned, Prod.mk.injEq, Except.ok.injEq] at read
          rcases read with ⟨rfl, rfl⟩
          exact Or.inr ⟨rfl, between, rfl, rfl⟩

/-- A step that fails has scanned the text, nothing being taken back. -/
theorem scan_of_next_error {scanner after : Scanner} {fault : Fault}
    (failed : scanner.next = (.error fault, after)) :
    scanner.pushed = none ∧ scanner.scan = (.error fault, after) := by
  unfold next at failed
  cases pushed : scanner.pushed with
  | some waiting =>
      rw [pushed] at failed
      cases failed
  | none =>
      rw [pushed] at failed
      rcases scanned : scanner.scan with ⟨result, between⟩
      rw [scanned] at failed
      cases result with
      | ok token => cases failed
      | error other => exact ⟨rfl, failed⟩

theorem next_of_pushed {scanner : Scanner} {token : Token} (waiting : scanner.pushed = some token) :
    scanner.next = (.ok token, scanner.handOut token) := by
  simp only [next, waiting]

theorem next_of_scanToken {scanner after : Scanner} {token : Token} (free : scanner.pushed = none)
    (scanned : scanner.skipBlanks.scanToken = (.ok token, after)) :
    scanner.next = (.ok token, after.handOut token) := by
  simp only [next, free, scan, scanned]

theorem next_of_scanToken_error {scanner after : Scanner} {fault : Fault}
    (free : scanner.pushed = none)
    (scanned : scanner.skipBlanks.scanToken = (.error fault, after)) :
    scanner.next = (.error fault, after) := by
  simp only [next, free, scan, scanned]

/-- A step reads on as scanning does, and not at all if the token was taken back. -/
theorem onward_next (scanner : Scanner) : Onward scanner scanner.next.2 := by
  have scanned := onward_scan scanner
  unfold next
  cases scanner.pushed with
  | some token => exact ⟨rfl, Nat.le_refl _, id⟩
  | none =>
      rcases found : scanner.scan with ⟨result, after⟩
      rw [found] at scanned
      cases result with
      | ok token => exact ⟨scanned.input, scanned.forward, scanned.inside⟩
      | error fault => exact scanned

/-- No step changes the text. -/
theorem next_input (scanner : Scanner) : scanner.next.2.input = scanner.input :=
  (onward_next scanner).input

/-- After a step nothing waits to be handed out again, and the token can be
taken back. -/
theorem next_pushed {scanner after : Scanner} {token : Token}
    (read : scanner.next = (.ok token, after)) : after.pushed = none := by
  rcases next_cases read with ⟨_, rfl⟩ | ⟨_, between, _, rfl⟩ <;> rfl

/-- Taking back the token just handed out restores the next step, the scanner
reached by it included. -/
theorem next_pushBack {scanner after : Scanner} {token : Token}
    (read : scanner.next = (.ok token, after)) : after.pushBack.next = scanner.next := by
  rw [read]
  rcases next_cases read with ⟨_, rfl⟩ | ⟨_, between, _, rfl⟩ <;>
    simp only [pushBack, next, handOut, Bool.or_assoc, Bool.or_self]

/-! ## Reading written tokens -/

/-- Nothing waits, and these characters are not yet read. -/
def At (scanner : Scanner) (chars : List Char) : Prop :=
  scanner.pushed = none ∧ scanner.rest = chars

theorem at_ofText (text : String) : At (ofText text) text.toList :=
  ⟨rfl, rfl⟩

theorem skipBlanks_of_head {scanner : Scanner} {c : Char} {behind : List Char}
    (ahead : scanner.rest = c :: behind) (visible : Text.isBlank c = false) :
    scanner.skipBlanks = scanner := by
  have none : (c :: behind).takeWhile Text.isBlank = [] :=
    List.takeWhile_cons_of_neg (by rw [visible]; decide)
  unfold skipBlanks
  rw [ahead, none]
  rfl

theorem next_of_before {scanner after : Scanner} {token : Token} (free : scanner.pushed = none)
    (front : Before scanner.skipBlanks token after) :
    scanner.next = (.ok token, after.handOut token) :=
  next_of_scanToken free front.scanToken

/-- A text that is used up yields its end. -/
theorem next_at_nil {scanner : Scanner} (atEnd : scanner.At []) :
    Exists fun ending => Exists fun after =>
      scanner.next = (.ok ending, after) ∧ ending.isEnding = true := by
  have rest : scanner.skipBlanks.rest = [] := by rw [rest_skipBlanks, atEnd.2]; rfl
  refine ⟨.ending scanner.skipBlanks.position,
    scanner.skipBlanks.handOut (.ending scanner.skipBlanks.position), ?_, rfl⟩
  simp only [next, atEnd.1, scan, scanToken, rest]

/-- A written token at the front of the text is handed out, and the scanner
stops at its end. -/
theorem next_written {scanner : Scanner} {token : Token} {behind : List Char}
    (stands : scanner.At (token.raw ++ behind)) (regular : token.Regular)
    (starts : token.position = scanner.position) (ends : token.isBare = true -> EndsWord behind) :
    scanner.next = (.ok token,
      Scanner.handOut { scanner with position := scanner.position + token.raw.length } token) := by
  have unblank : scanner.skipBlanks = scanner := by
    cases shown : token.raw with
    | nil => exact False.elim (regular.raw_ne_nil shown)
    | cons c letters =>
        have ahead : scanner.rest = c :: (letters ++ behind) := by
          rw [stands.2, shown, List.cons_append]
        exact skipBlanks_of_head ahead (regular.isBlank_head shown)
  have front := Before.of_rest behind regular starts stands.2 ends
  exact next_of_before stands.1 (by rw [unblank]; exact front)

/-- The scanner goes on behind what is written in front of it. -/
theorem at_behind {scanner : Scanner} {written behind : List Char}
    (stands : scanner.At (written ++ behind)) :
    At { scanner with position := scanner.position + written.length } behind := by
  refine ⟨stands.1, ?_⟩
  rw [rest_moveTo, stands.2, List.drop_left]

theorem next_at {scanner : Scanner} {token : Token} {behind : List Char}
    (stands : scanner.At (token.raw ++ behind)) (regular : token.Regular)
    (starts : token.position = scanner.position) (ends : token.isBare = true -> EndsWord behind) :
    Exists fun after => scanner.next = (.ok token, after) ∧ after.At behind :=
  ⟨_, next_written stands regular starts ends, rfl, (at_behind stands).2⟩

/-! ## Runs of tokens -/

/-- Reading tokens one after another leads from one scanner to another, up to
scanners with the same next step. -/
inductive Steps : Scanner -> List Token -> Scanner -> Prop
  | done {scanner after : Scanner} (same : scanner.next = after.next) : Steps scanner [] after
  | token {scanner between after : Scanner} {token : Token} {tokens : List Token}
      (read : scanner.next = (.ok token, between)) (later : Steps between tokens after) :
      Steps scanner (token :: tokens) after

namespace Steps

theorem of_next {scanner other after : Scanner} {tokens : List Token}
    (same : scanner.next = other.next) (steps : Steps other tokens after) :
    Steps scanner tokens after := by
  cases steps with
  | done later => exact .done (same.trans later)
  | token read later => exact .token (same.trans read) later

theorem append {scanner between after : Scanner} {first second : List Token}
    (start : Steps scanner first between) (finish : Steps between second after) :
    Steps scanner (first ++ second) after := by
  induction start with
  | done same => exact finish.of_next same
  | token read later ih => exact .token read (ih finish)

theorem split {scanner after : Scanner} {first second : List Token}
    (steps : Steps scanner (first ++ second) after) :
    Exists fun between => Steps scanner first between ∧ Steps between second after := by
  induction first generalizing scanner with
  | nil => exact ⟨scanner, .done rfl, steps⟩
  | cons token tokens ih =>
      cases steps with
      | token read later =>
          rcases ih later with ⟨between, start, finish⟩
          exact ⟨between, .token read start, finish⟩

end Steps

/-- The scanner hands out these tokens and then the end of the input. -/
inductive Yields : Scanner -> List Token -> Token -> Prop
  | ending {scanner after : Scanner} {ending : Token}
      (read : scanner.next = (.ok ending, after)) (atEnd : ending.isEnding = true) :
      Yields scanner [] ending
  | token {scanner after : Scanner} {token ending : Token} {tokens : List Token}
      (read : scanner.next = (.ok token, after)) (inside : token.isEnding = false)
      (later : Yields after tokens ending) : Yields scanner (token :: tokens) ending

/-- Yielding is stepping through tokens other than the end up to the end. -/
theorem yields_iff {scanner : Scanner} {tokens : List Token} {ending : Token} :
    Yields scanner tokens ending <->
      (forall token, token ∈ tokens -> token.isEnding = false) ∧
        Exists fun last => Exists fun after =>
          Steps scanner tokens last ∧ last.next = (.ok ending, after) ∧ ending.isEnding = true := by
  constructor
  · intro yields
    induction yields with
    | ending read atEnd =>
        exact ⟨fun token member => absurd member List.not_mem_nil, _, _, .done rfl, read, atEnd⟩
    | token read inside later ih =>
        rcases ih with ⟨others, last, after, steps, read', atEnd⟩
        exact ⟨List.forall_mem_cons.mpr ⟨inside, others⟩, last, after, .token read steps, read',
          atEnd⟩
  · rintro ⟨inside, last, after, steps, read, atEnd⟩
    induction steps with
    | done same => exact .ending (same.trans read) atEnd
    | token first later ih =>
        have parts := List.forall_mem_cons.mp inside
        exact .token first parts.1 (ih parts.2 read)

theorem Yields.prepend {scanner between : Scanner} {tokens others : List Token} {ending : Token}
    (steps : Steps scanner tokens between)
    (inside : forall token, token ∈ tokens -> token.isEnding = false)
    (yields : Yields between others ending) : Yields scanner (tokens ++ others) ending := by
  rcases yields_iff.mp yields with ⟨insideOthers, last, after, later, read, atEnd⟩
  refine yields_iff.mpr ⟨?_, last, after, steps.append later, read, atEnd⟩
  intro token member
  rcases List.mem_append.mp member with among | among
  · exact inside token among
  · exact insideOthers token among

theorem Yields.of_next {scanner other : Scanner} {tokens : List Token} {ending : Token}
    (same : scanner.next = other.next) (yields : Yields other tokens ending) :
    Yields scanner tokens ending := by
  cases yields with
  | ending read atEnd => exact .ending (same.trans read) atEnd
  | token read inside later => exact .token (same.trans read) inside later

theorem Yields.split {scanner : Scanner} {first second : List Token} {ending : Token}
    (yields : Yields scanner (first ++ second) ending) :
    Exists fun between => Steps scanner first between ∧ Yields between second ending := by
  rcases yields_iff.mp yields with ⟨inside, last, after, steps, read, atEnd⟩
  rcases steps.split with ⟨between, start, finish⟩
  exact ⟨between, start, yields_iff.mpr
    ⟨fun token among => inside token (List.mem_append_right first among),
      last, after, finish, read, atEnd⟩⟩

/-- All tokens of a scanner start with those on the way to some place. -/
theorem Steps.exists_append {scanner between : Scanner} {tokens all : List Token} {ending : Token}
    (steps : Steps scanner tokens between)
    (inside : forall token, token ∈ tokens -> token.isEnding = false)
    (yields : Yields scanner all ending) : Exists fun more => all = tokens ++ more := by
  induction steps generalizing all with
  | done same => exact ⟨all, rfl⟩
  | token read later ih =>
      have parts := List.forall_mem_cons.mp inside
      cases yields with
      | ending read' atEnd =>
          rw [read] at read'
          cases read'
          rw [parts.1] at atEnd
          cases atEnd
      | token read' _ rest =>
          rw [read] at read'
          cases read'
          rcases ih parts.2 rest with ⟨more, rfl⟩
          exact ⟨more, rfl⟩

/-- Listing the tokens of a scanner up to the end of the input finds the tokens
that it yields. -/
theorem yields_of_drain {bound : Nat} {scanner : Scanner} {tokens : List Token} {ending : Token}
    (listed : (drain bound scanner).map Except.toOption = (tokens ++ [ending]).map some)
    (atEnd : ending.isEnding = true) : Yields scanner tokens ending := by
  induction bound generalizing scanner tokens with
  | zero =>
      rw [List.map_append] at listed
      exact absurd listed.symm (List.append_ne_nil_of_right_ne_nil _ (List.cons_ne_nil _ _))
  | succ bound ih =>
      unfold drain at listed
      rcases read : scanner.next with ⟨result, after⟩
      rw [read] at listed
      cases result with
      | error fault =>
          cases tokens <;> cases listed
      | ok token =>
          simp only at listed
          split at listed
          next found =>
            cases tokens with
            | nil =>
                cases listed
                exact .ending read found
            | cons first others =>
                have impossible := congrArg List.length listed
                simp at impossible
          next inside =>
            cases tokens with
            | nil =>
                have same := (List.cons.inj listed).1
                cases same
                exact absurd atEnd inside
            | cons first others =>
                have parts := List.cons.inj listed
                cases parts.1
                exact .token read (Bool.eq_false_iff.mpr inside) (ih parts.2)

/-! ## Progress -/

theorem scan_progress {scanner after : Scanner} {token : Token}
    (read : scanner.scan = (.ok token, after)) (inside : token.isEnding = false) :
    after.rest.length < scanner.rest.length := by
  have skipped := (onward_skipBlanks scanner).rest_le
  rcases before_of_scanToken read with ⟨_, rfl, _⟩ | front
  · cases inside
  · have shorter := congrArg List.length front.written
    rw [List.length_append] at shorter
    have positive := List.length_pos_iff.mpr front.regular.raw_ne_nil
    omega

/-- The number of characters behind the next token.  It depends on the next step
only, so taking a token back does not change it. -/
def left (scanner : Scanner) : Nat :=
  scanner.next.2.rest.length

theorem left_le (scanner : Scanner) : scanner.left ≤ scanner.input.length := by
  unfold left
  rw [← next_input scanner]
  simp only [rest, List.length_drop]
  omega

theorem left_of_next {scanner other : Scanner} (same : scanner.next = other.next) :
    scanner.left = other.left := by
  rw [left, left, same]

theorem left_mono {scanner between : Scanner} {token : Token}
    (read : scanner.next = (.ok token, between)) : between.left ≤ scanner.left := by
  have free := next_pushed read
  have shorter := (onward_scan between).rest_le
  rw [left, left, read]
  unfold next
  rw [free]
  rcases scanned : between.scan with ⟨result, after⟩
  rw [scanned] at shorter
  cases result <;> exact shorter

/-- After a step, a further token that is not the end takes characters away. -/
theorem left_lt {scanner between after : Scanner} {first second : Token}
    (read : scanner.next = (.ok first, between)) (next : between.next = (.ok second, after))
    (inside : second.isEnding = false) : between.left < scanner.left := by
  have free := next_pushed read
  rcases next_cases next with ⟨taken, _⟩ | ⟨_, scanned, scan, rfl⟩
  · rw [free] at taken
    cases taken
  · have progress := scan_progress scan inside
    rw [left, left, next, read]
    exact progress

/-- Behind a step, a run of tokens inside the text takes characters away. -/
theorem Steps.left_lt {scanner between after : Scanner} {first : Token} {tokens : List Token}
    (read : scanner.next = (.ok first, between)) (steps : Steps between tokens after)
    (nonempty : tokens ≠ []) (inside : forall token, token ∈ tokens -> token.isEnding = false) :
    after.left < scanner.left := by
  induction steps generalizing scanner first with
  | done same => exact False.elim (nonempty rfl)
  | @token between later after token tokens next steps ih =>
      have parts := List.forall_mem_cons.mp inside
      have step := Scanner.left_lt read next parts.1
      cases tokens with
      | nil =>
          cases steps with
          | done same =>
              have shrinks := left_mono next
              rw [left_of_next same] at shrinks
              omega
      | cons another others =>
          have further := ih next (List.cons_ne_nil _ _) parts.2
          omega

/-- A run inside the text has no more tokens than there are characters behind
its first token, and one. -/
theorem Steps.length_le {scanner after : Scanner} {tokens : List Token}
    (steps : Steps scanner tokens after)
    (inside : forall token, token ∈ tokens -> token.isEnding = false) :
    tokens.length ≤ scanner.left + 1 := by
  induction steps with
  | done same => exact Nat.zero_le _
  | @token scanner between after token tokens read later ih =>
      have parts := List.forall_mem_cons.mp inside
      have tail := ih parts.2
      cases later with
      | done same =>
          rw [List.length_cons, List.length_nil]
          omega
      | token next _ =>
          have step := Scanner.left_lt read next (List.forall_mem_cons.mp parts.2).1
          simp only [List.length_cons] at tail ⊢
          omega

end Scanner
end CorpusQuery
