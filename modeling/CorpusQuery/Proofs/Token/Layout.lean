import CorpusQuery.Query.Canonical
import CorpusQuery.Token.Scanner

namespace CorpusQuery

/-!
# How tokens are written

Every token has one written form without blanks: a mark is its character, a
bare word or number its text, and a quoted token its text between quotes with a
backslash before every quote and backslash.  A scanner that stands in front of
such a form reads the token and passes exactly these characters.  Conversely
every token read off a text was written in this form.

Only bare words need to know what comes behind them, since a further word
character would belong to the same word.
-/

namespace Mark

theorem ofChar?_toChar (mark : Mark) : ofChar? mark.toChar = some mark := by
  cases mark <;> decide

theorem ofChar?_eq_some {c : Char} {mark : Mark} (found : ofChar? c = some mark) :
    c = mark.toChar := by
  cases mark <;> grind [ofChar?, toChar]

end Mark

/-! ## Word characters -/

theorem isWordChar_iff {c : Char} :
    isWordChar c = true <->
      Text.isBlank c = false ∧ Mark.ofChar? c = none ∧ c ≠ '"' ∧ Text.isControl c = false := by
  simp only [isWordChar, Bool.and_eq_true, Bool.not_eq_true', Option.isNone_iff_eq_none, bne_iff_ne,
    and_assoc]

theorem isWordChar_toChar (mark : Mark) : isWordChar mark.toChar = false := by
  cases mark <;> decide

theorem isBlank_toChar (mark : Mark) : Text.isBlank mark.toChar = false := by
  cases mark <;> decide

/-- Nothing stands there, or a character that cannot continue a bare word. -/
def EndsWord (rest : List Char) : Prop :=
  forall c, rest.head? = some c -> isWordChar c = false

theorem endsWord_cons {c : Char} {rest : List Char} :
    EndsWord (c :: rest) <-> isWordChar c = false := by
  simp only [EndsWord, List.head?_cons, Option.some.injEq, forall_eq']

/-- Taking word characters stops exactly behind a word that nothing continues. -/
theorem takeWhile_isWordChar {word rest : List Char} (bare : word.all isWordChar = true)
    (ends : EndsWord rest) : (word ++ rest).takeWhile isWordChar = word := by
  rw [List.takeWhile_append_of_pos (List.all_eq_true.mp bare)]
  cases rest with
  | nil => simp only [List.takeWhile_nil, List.append_nil]
  | cons c rest =>
      rw [List.takeWhile_cons_of_neg (by rw [endsWord_cons.mp ends]; decide), List.append_nil]

theorem endsWord_dropWhile (chars : List Char) : EndsWord (chars.dropWhile isWordChar) := by
  intro c found
  have stopped := List.head?_dropWhile_not isWordChar chars
  rw [found] at stopped
  simpa only [Bool.not_eq_true] using stopped

/-! ## Quoted text -/

namespace Scanner

theorem QuotedEnd.prepend_eq_closed {c : Char} {written length : Nat} {text : List Char}
    {inner : QuotedEnd} (read : inner.prepend c written = .closed text length) :
    Exists fun innerText => Exists fun innerLength =>
      inner = .closed innerText innerLength ∧ text = c :: innerText ∧
        length = written + innerLength := by
  cases inner with
  | badEscape bad innerLength => cases read
  | unterminated innerLength => cases read
  | closed innerText innerLength =>
      simp only [prepend, closed.injEq] at read
      exact ⟨innerText, innerLength, rfl, read.1.symm, read.2.symm⟩

/-- Reading undoes the escapes, whatever comes behind the closing quote. -/
theorem quotedEnd_escaped (text rest : List Char) :
    quotedEnd (Canonical.escaped text ++ '"' :: rest) =
      .closed text ((Canonical.escaped text).length + 1) := by
  induction text with
  | nil => simp [Canonical.escaped, quotedEnd]
  | cons c text ih =>
      unfold Canonical.escaped
      by_cases special : c = '"' ∨ c = '\\'
      · rw [if_pos special]
        simp only [List.cons_append, quotedEnd, if_pos special, ih, QuotedEnd.prepend,
          List.length_cons, QuotedEnd.closed.injEq, true_and]
        omega
      · rw [if_neg special]
        have notQuote : c ≠ '"' := fun same => special (Or.inl same)
        have notBackslash : c ≠ '\\' := fun same => special (Or.inr same)
        rw [List.cons_append, quotedEnd]
        · simp only [if_neg notQuote, ih, QuotedEnd.prepend, List.length_cons,
            QuotedEnd.closed.injEq, true_and]
          omega
        · intro same _
          exact notBackslash same
        · intro escape behind same _
          exact notBackslash same

/-- A character and what writes it come in front of a quoted text that is read. -/
theorem QuotedEnd.escaped_of_prepend {c : Char} {lead later text : List Char} {inner : QuotedEnd}
    {length : Nat}
    (step : forall text, Canonical.escaped (c :: text) = lead ++ Canonical.escaped text)
    (ih : forall {text : List Char} {length : Nat}, inner = .closed text length ->
      Exists fun rest => later = Canonical.escaped text ++ '"' :: rest ∧
        length = (Canonical.escaped text).length + 1)
    (read : inner.prepend c lead.length = .closed text length) :
    Exists fun rest => lead ++ later = Canonical.escaped text ++ '"' :: rest ∧
      length = (Canonical.escaped text).length + 1 := by
  rcases QuotedEnd.prepend_eq_closed read with ⟨innerText, innerLength, inner, rfl, rfl⟩
  rcases ih inner with ⟨behind, same, size⟩
  refine ⟨behind, ?_, ?_⟩
  · rw [step, same, List.append_assoc]
  · rw [step, size, List.length_append, Nat.add_assoc]

/-- Whatever is read as a quoted text is the text with its escapes, up to the
closing quote. -/
theorem eq_escaped_of_quotedEnd {chars text : List Char} {length : Nat}
    (read : quotedEnd chars = .closed text length) :
    Exists fun rest => chars = Canonical.escaped text ++ '"' :: rest ∧
      length = (Canonical.escaped text).length + 1 := by
  fun_induction quotedEnd chars generalizing text length with
  | case1 => cases read
  | case2 => cases read
  | case3 c rest special ih =>
      have step : forall text,
          Canonical.escaped (c :: text) = ['\\', c] ++ Canonical.escaped text :=
        fun text => by rw [Canonical.escaped, if_pos special]; rfl
      exact QuotedEnd.escaped_of_prepend step ih read
  | case4 c rest special => cases read
  | case5 rest _ _ =>
      cases read
      exact ⟨rest, rfl, rfl⟩
  | case6 c rest lone escape notQuote ih =>
      -- A backslash here would have been read together with what it escapes.
      have notBackslash : c ≠ '\\' := by
        intro backslash
        cases rest with
        | nil => exact lone backslash rfl
        | cons next later => exact escape next later backslash rfl
      have step : forall text, Canonical.escaped (c :: text) = [c] ++ Canonical.escaped text :=
        fun text => by rw [Canonical.escaped, if_neg (not_or.mpr ⟨notQuote, notBackslash⟩)]; rfl
      exact QuotedEnd.escaped_of_prepend step ih read

/-- The number of characters read after the opening quote, however reading ends. -/
def QuotedEnd.length : QuotedEnd -> Nat
  | .closed _ length | .badEscape _ length | .unterminated length => length

theorem QuotedEnd.length_prepend (c : Char) (written : Nat) (inner : QuotedEnd) :
    (inner.prepend c written).length = written + inner.length := by
  cases inner <;> rfl

/-- A quoted text is never read beyond the end, not even one that has no end. -/
theorem length_quotedEnd_le (chars : List Char) : (quotedEnd chars).length ≤ chars.length := by
  fun_induction quotedEnd chars with
  | case1 => exact Nat.le_refl 0
  | case2 => exact Nat.le_refl 1
  | case3 c rest special ih =>
      rw [QuotedEnd.length_prepend, List.length_cons, List.length_cons]
      omega
  | case4 c rest other => exact Nat.succ_le_succ (Nat.zero_le _)
  | case5 rest _ _ => exact Nat.succ_le_succ (Nat.zero_le _)
  | case6 c rest _ _ _ ih =>
      rw [QuotedEnd.length_prepend, List.length_cons]
      omega

end Scanner

/-! ## Written tokens -/

namespace Token

/-- The characters that write a token. -/
def raw (token : Token) : List Char :=
  if token.kind = .quoted then Canonical.quoted token.text.toList else token.text.toList

/-- Whether the token is written without delimiters of its own. -/
def isBare (token : Token) : Bool :=
  token.kind = .word || token.kind = .number

/-- The tokens that a text can contain: the text of a mark is its character, a
bare text is a run of word characters of the right kind, and a quoted text is
free. -/
def Regular (token : Token) : Prop :=
  match token.kind with
  | .word | .number =>
    token.text.toList ≠ [] ∧ token.text.toList.all isWordChar = true ∧
      Scanner.wordKind token.text.toList = token.kind
  | .quoted => True
  | .mark mark => token.text = String.singleton mark.toChar
  | .ending => False

/-- A written token is never empty, which is what makes a scanner advance. -/
theorem Regular.raw_ne_nil {token : Token} (regular : token.Regular) : token.raw ≠ [] := by
  rcases token with ⟨kind, text, position⟩
  cases kind with
  | ending => exact False.elim regular
  | word => exact regular.1
  | number => exact regular.1
  | quoted => simp [raw, Canonical.quoted]
  | mark mark =>
      have shown : text = String.singleton mark.toChar := regular
      simp [raw, shown]

/-- No blank starts a written token. -/
theorem Regular.isBlank_head {token : Token} {c : Char} {letters : List Char}
    (regular : token.Regular) (shown : token.raw = c :: letters) : Text.isBlank c = false := by
  rcases token with ⟨kind, text, position⟩
  cases kind with
  | ending => exact False.elim regular
  | mark mark =>
      have single : text = String.singleton mark.toChar := regular
      have same : [mark.toChar] = c :: letters := by simpa [raw, single] using shown
      cases same
      exact isBlank_toChar mark
  | quoted =>
      cases (show '"' :: _ = c :: letters from shown)
      decide
  | word =>
      have same : text.toList = c :: letters := shown
      have bare := List.all_eq_true.mp regular.2.1
      exact (isWordChar_iff.mp (bare c (by rw [same]; exact List.mem_cons_self))).1
  | number =>
      have same : text.toList = c :: letters := shown
      have bare := List.all_eq_true.mp regular.2.1
      exact (isWordChar_iff.mp (bare c (by rw [same]; exact List.mem_cons_self))).1

end Token

/-! ## Reading one token -/

namespace Scanner

theorem rest_moveTo (scanner : Scanner) (length : Nat) :
    rest { scanner with position := scanner.position + length } = scanner.rest.drop length := by
  simp only [rest, List.drop_drop]

/-- A written token is the next thing in the text, and nothing behind it belongs
to it.  Passing it leads to the second scanner. -/
structure Before (scanner : Scanner) (token : Token) (after : Scanner) : Prop where
  regular : token.Regular
  starts : token.position = scanner.position
  written : scanner.rest = token.raw ++ after.rest
  ends : token.isBare = true -> EndsWord after.rest
  moved : after = { scanner with position := scanner.position + token.raw.length }

/-- It is enough to look at the text: the scanner behind the token follows. -/
theorem Before.of_rest {scanner : Scanner} {token : Token} (behind : List Char)
    (regular : token.Regular) (starts : token.position = scanner.position)
    (written : scanner.rest = token.raw ++ behind) (ends : token.isBare = true -> EndsWord behind) :
    Before scanner token { scanner with position := scanner.position + token.raw.length } := by
  have rest : rest { scanner with position := scanner.position + token.raw.length } = behind := by
    rw [rest_moveTo, written, List.drop_left]
  exact ⟨regular, starts, by rw [rest]; exact written, by rw [rest]; exact ends, rfl⟩

theorem scanToken_word {scanner : Scanner} {word behind : List Char} (nonempty : word ≠ [])
    (bare : word.all isWordChar = true) (ahead : scanner.rest = word ++ behind)
    (ends : EndsWord behind) :
    scanner.scanToken = (.ok ⟨wordKind word, String.ofList word, scanner.position⟩,
      { scanner with position := scanner.position + word.length }) := by
  cases word with
  | nil => exact False.elim (nonempty rfl)
  | cons c letters =>
      have first : isWordChar c = true := (List.all_eq_true.mp bare) c List.mem_cons_self
      have classes := isWordChar_iff.mp first
      have ahead' : scanner.rest = c :: (letters ++ behind) := ahead
      have taken : (c :: (letters ++ behind)).takeWhile isWordChar = c :: letters :=
        takeWhile_isWordChar bare ends
      unfold scanToken
      simp only [ahead', classes.2.1, if_neg classes.2.2.1, first, if_true, taken]

/-- A scanner reads a token that is written in front of it. -/
theorem Before.scanToken {scanner after : Scanner} {token : Token}
    (front : Before scanner token after) : scanner.scanToken = (.ok token, after) := by
  rcases front with ⟨regular, starts, written, ends, moved⟩
  rcases token with ⟨kind, text, position⟩
  cases starts
  cases kind with
  | ending => exact False.elim regular
  | mark mark =>
      have shown : text = String.singleton mark.toChar := regular
      subst shown
      have ahead : scanner.rest = mark.toChar :: after.rest := by simpa [Token.raw] using written
      unfold Scanner.scanToken
      simp only [ahead, Mark.ofChar?_toChar]
      rw [moved]
      simp [Token.raw]
  | quoted =>
      have ahead : scanner.rest =
          '"' :: (Canonical.escaped text.toList ++ '"' :: after.rest) := by
        simpa [Token.raw, Canonical.quoted] using written
      have noMark : Mark.ofChar? '"' = none := by decide
      unfold Scanner.scanToken
      simp only [ahead, noMark, if_true, quotedEnd_escaped, String.ofList_toList]
      rw [moved]
      simp [Token.raw, Canonical.quoted, Nat.add_assoc, Nat.add_comm 1]
  | word =>
      have read := scanToken_word regular.1 regular.2.1 written (ends rfl)
      rw [read, moved, regular.2.2, String.ofList_toList]
      rfl
  | number =>
      have read := scanToken_word regular.1 regular.2.1 written (ends rfl)
      rw [read, moved, regular.2.2, String.ofList_toList]
      rfl

theorem wordKind_cases (word : List Char) : wordKind word = .word ∨ wordKind word = .number := by
  unfold wordKind
  split
  · exact Or.inr rfl
  · exact Or.inl rfl

theorem Before.of_word {scanner : Scanner} {word behind : List Char} (nonempty : word ≠ [])
    (bare : word.all isWordChar = true) (ahead : scanner.rest = word ++ behind)
    (ends : EndsWord behind) :
    Before scanner ⟨wordKind word, String.ofList word, scanner.position⟩
      { scanner with position := scanner.position + word.length } := by
  have raw : Token.raw ⟨wordKind word, String.ofList word, scanner.position⟩ = word := by
    rcases wordKind_cases word with kind | kind <;> simp [Token.raw, kind]
  have regular : Token.Regular ⟨wordKind word, String.ofList word, scanner.position⟩ := by
    rcases wordKind_cases word with kind | kind <;>
      simpa [Token.Regular, kind] using ⟨nonempty, List.all_eq_true.mp bare⟩
  have front := Before.of_rest behind regular rfl (by rw [raw]; exact ahead) (fun _ => ends)
  rwa [raw] at front

theorem Before.of_mark {scanner : Scanner} {mark : Mark} {behind : List Char}
    (ahead : scanner.rest = mark.toChar :: behind) :
    Before scanner ⟨.mark mark, String.singleton mark.toChar, scanner.position⟩
      { scanner with position := scanner.position + 1 } := by
  have regular : Token.Regular ⟨.mark mark, String.singleton mark.toChar, scanner.position⟩ := rfl
  have front := Before.of_rest behind regular rfl (by simpa [Token.raw] using ahead)
    (by intro impossible; cases impossible)
  simpa [Token.raw] using front

theorem Before.of_quoted {scanner : Scanner} {text behind : List Char} {length : Nat}
    (ahead : scanner.rest = '"' :: behind) (ended : quotedEnd behind = .closed text length) :
    Before scanner ⟨.quoted, String.ofList text, scanner.position⟩
      { scanner with position := scanner.position + 1 + length } := by
  rcases eq_escaped_of_quotedEnd ended with ⟨later, same, size⟩
  have regular : Token.Regular ⟨.quoted, String.ofList text, scanner.position⟩ := trivial
  have front := Before.of_rest later regular rfl
    (by simpa [Token.raw, Canonical.quoted, same] using ahead)
    (by intro impossible; cases impossible)
  simpa [Token.raw, Canonical.quoted, size, Nat.add_assoc, Nat.add_comm 1] using front

/-- Every token read without skipping blanks is written at that place, or it is
the end of a text that is used up. -/
theorem before_of_scanToken {scanner after : Scanner} {token : Token}
    (read : scanner.scanToken = (.ok token, after)) :
    (scanner.rest = [] ∧ token = .ending scanner.position ∧ after = scanner) ∨
      Before scanner token after := by
  unfold Scanner.scanToken at read
  split at read
  next atEnd =>
    cases read
    exact Or.inl ⟨atEnd, rfl, rfl⟩
  next c behind ahead =>
    right
    split at read
    next mark found =>
      cases Mark.ofChar?_eq_some found
      cases read
      exact Before.of_mark ahead
    next noMark =>
      split at read
      next quote =>
        subst quote
        cases ended : quotedEnd behind with
        | badEscape bad length => rw [ended] at read; cases read
        | unterminated length => rw [ended] at read; cases read
        | closed text length =>
            rw [ended] at read
            cases read
            exact Before.of_quoted ahead ended
      next notQuote =>
        split at read
        next first =>
          cases read
          have parts := List.takeWhile_append_dropWhile (p := isWordChar) (l := c :: behind)
          exact Before.of_word
            (by rw [List.takeWhile_cons_of_pos first]; exact List.cons_ne_nil _ _)
            List.all_takeWhile (ahead.trans parts.symm) (endsWord_dropWhile (c :: behind))
        next other => cases read

/-- Reading a token has failed.  The fault is raised behind some characters of the
token, and shows the text from the start of the token on. -/
structure Raised (scanner : Scanner) (fault : Fault) (after : Scanner) : Prop where
  visible : scanner.rest ≠ []
  lexical : fault.cause.stage = .lexical
  shown : fault = after.faultFrom fault.cause scanner.position
  passed : Exists fun count => count ≤ scanner.rest.length ∧
    after = { scanner with position := scanner.position + count }

/-- What can go wrong with a token: its first character, or the end of its quoted
text. -/
theorem raised_of_scanToken {scanner after : Scanner} {fault : Fault}
    (failed : scanner.scanToken = (.error fault, after)) : Raised scanner fault after := by
  unfold scanToken at failed
  split at failed
  next => cases failed
  next c behind ahead =>
    have visible : scanner.rest ≠ [] := by
      rw [ahead]
      exact List.cons_ne_nil c behind
    -- A quoted text is read up to the character that it cannot go on with.
    have stopped : forall length, (quotedEnd behind).length = length ->
        Exists fun count => count ≤ scanner.rest.length ∧
          { scanner with position := scanner.position + 1 + length } =
            { scanner with position := scanner.position + count } := by
      intro length read
      have bounded := length_quotedEnd_le behind
      refine ⟨1 + length, ?_, ?_⟩
      · rw [ahead, List.length_cons]
        omega
      · rw [Nat.add_assoc]
    split at failed
    next => cases failed
    next =>
      split at failed
      next =>
        split at failed
        next => cases failed
        next bad length ended =>
          cases failed
          exact ⟨visible, rfl, rfl, stopped length (by rw [ended]; rfl)⟩
        next length ended =>
          cases failed
          exact ⟨visible, rfl, rfl, stopped length (by rw [ended]; rfl)⟩
      next =>
        split at failed
        next => cases failed
        next =>
          cases failed
          exact ⟨visible, rfl, rfl, 0, Nat.zero_le _, rfl⟩

end Scanner
end CorpusQuery
