import CorpusQuery.Proofs.Text.Quoted
import CorpusQuery.Toml.Quoted
import CorpusQuery.Toml.Writer

namespace CorpusQuery
namespace Toml

/-!
# Quoted texts are read back

Whatever form the writer chooses for a text, reading it gives the text, and what
stands behind the closing quotes is left.  The forms with escapes suit every
text; the others are chosen only for texts that they suit.

Quotes are the difficulty.  A form with three quotes may have up to two of them
directly before the closing ones, and the reader finds the end at the first of
all these quotes.  So the texts that are left when it meets a quote are told
apart by how many quotes they consist of.  No quote may follow, or it would be
read as one of the closing ones.
-/

open Writer Text.Quoted

namespace Quoted

/-! ## Closing quotes -/

/-- Up to two quotes before the closing ones belong to the text. -/
theorem closing_replicate {quote : Char} {behind : List Char} (ends : behind.head? ≠ some quote)
    {count : Nat} (few : count ≤ 2) :
    closing quote (List.replicate count quote ++ behind) =
      (List.replicate count quote, behind) := by
  have other : forall c rest, behind = c :: rest -> c ≠ quote := by
    rintro c rest rfl same
    exact ends (congrArg some same)
  match count, few with
  | 0, _ =>
      match behind with
      | [] => rfl
      | [c] => simp [closing, other c [] rfl]
      | c :: d :: rest => simp [closing, other c _ rfl]
  | 1, _ =>
      match behind with
      | [] => simp [closing]
      | c :: rest => simp [closing, other c _ rfl]
  | 2, _ => simp [closing, List.replicate]

theorem replicate_append_three (count : Nat) (quote : Char) (behind : List Char) :
    List.replicate count quote ++ quote :: quote :: quote :: behind =
      quote :: quote :: quote :: (List.replicate count quote ++ behind) := by
  induction count with
  | zero => rfl
  | succ count ih => rw [List.replicate_succ, List.cons_append, ih]; rfl

theorem isClosed_of_head {quote : Char} {rest : List Char} (other : rest.head? ≠ some quote) :
    isClosed quote rest = false := by
  cases rest with
  | nil => rfl
  | cons c rest =>
      have different : c ≠ quote := fun same => other (congrArg some same)
      simp [isClosed, different]

theorem isClosed_cons_self (quote : Char) (rest : List Char) :
    isClosed quote (quote :: rest) = decide (rest.head? = some quote) := by
  cases rest with
  | nil => simp [isClosed]
  | cons c rest => simp [isClosed]

/-! ## Escapes -/

theorem isTextChar_of_isCode {c : Char} (plain : isCode c = false) (inLine : c ≠ '\n') :
    isTextChar c = true := by
  simp only [isCode, Bool.or_eq_false_iff, Bool.and_eq_false_imp, bne_iff_ne, Bool.and_eq_true,
    decide_eq_true_eq, beq_eq_false_iff_ne] at plain
  by_cases tab : c = '\t'
  · simp [isTextChar, tab]
  · have visible : 0x20 ≤ c.toNat := by
      apply Nat.le_of_not_lt
      intro below
      have impossible := plain.1 ⟨below, tab⟩
      simp [inLine] at impossible
    simp [isTextChar, visible, plain.2]

theorem ne_return_of_isCode {c : Char} (plain : isCode c = false) : c ≠ '\r' := by
  rintro rfl
  revert plain
  decide

theorem toNat_lt_of_isCode {c : Char} (code : isCode c = true) : c.toNat < 128 := by
  simp only [isCode, Bool.or_eq_true, Bool.and_eq_true, decide_eq_true_eq, beq_iff_eq] at code
  omega

theorem readsNumbers_escape? : ReadsNumbers escape? := by
  intro rest number read small
  have found : numbered? 4 rest = some (Char.ofNat number) := by
    rw [numbered?, read, Option.bind_some, Text.charOfCode?, if_pos (Or.inl small)]
  simp [escape?, found]

/-- A character below the visible ones is written with four digits that give its
number. -/
theorem encodes_numbered {c : Char} (code : isCode c = true) :
    Exists fun digits => numbered c = '\\' :: digits ∧ Encodes escape? digits c := by
  have small := toNat_lt_of_isCode code
  have length : ((Text.hexDigits 4 c.toNat).map Char.toUpper).length = 4 := by
    rw [List.length_map, Text.length_hexDigits (by omega)]
  have number : Text.hexNumber? ((Text.hexDigits 4 c.toNat).map Char.toUpper) = some c.toNat := by
    rw [Text.hexNumber?_map_toUpper, Text.hexNumber?_hexDigits]
  exact ⟨_, rfl, encodes_digits readsNumbers_escape? length number (by omega)⟩

/-- A character of a line stands for itself, or a backslash and a code stand for
it. -/
theorem escapedChar_cases {c : Char} (inLine : c ≠ '\n') :
    (escapedChar c = [c] ∧ c ≠ '\\' ∧ c ≠ '\r' ∧ isTextChar c = true) ∨
      Exists fun code => escapedChar c = '\\' :: code ∧ Encodes escape? code c := by
  by_cases short : c ∈ ['\x08', '\t', '\x0c', '\r', '\\']
  · right
    simp only [List.mem_cons, List.not_mem_nil, or_false] at short
    rcases short with rfl | rfl | rfl | rfl | rfl
    · exact ⟨['b'], rfl, fun rest => rfl⟩
    · exact ⟨['t'], rfl, fun rest => rfl⟩
    · exact ⟨['f'], rfl, fun rest => rfl⟩
    · exact ⟨['r'], rfl, fun rest => rfl⟩
    · exact ⟨['\\'], rfl, fun rest => rfl⟩
  · simp only [List.mem_cons, List.not_mem_nil, or_false, not_or] at short
    rcases short with ⟨back, tab, feed, carriage, backslash⟩
    simp only [escapedChar, back, tab, feed, carriage, backslash, if_false]
    cases code : isCode c with
    | false =>
        exact Or.inl ⟨rfl, backslash, carriage, isTextChar_of_isCode code inLine⟩
    | true => exact Or.inr (encodes_numbered code)

/-- What is written for a character of a line starts with a quote for a quote
only, and with no line break. -/
theorem escapedChar_head {c : Char} (inLine : c ≠ '\n') :
    Exists fun first => Exists fun rest => escapedChar c = first :: rest ∧ first ≠ '\n' ∧
      first ≠ '\r' ∧ (first = '"' -> c = '"') := by
  rcases escapedChar_cases inLine with ⟨shown, _, carriage, _⟩ | ⟨code, shown, _⟩
  · exact ⟨c, [], shown, inLine, carriage, id⟩
  · exact ⟨'\\', code, shown, by decide, by decide, fun same => absurd same (by decide)⟩

/-! ## One line -/

theorem shows_basicChar (c : Char) : Shows escape? isTextChar (basicChar c) c := by
  unfold basicChar
  by_cases quote : c = '"'
  · subst quote
    exact Or.inr ⟨['"'], rfl, fun rest => rfl⟩
  · rw [if_neg quote]
    by_cases line : c = '\n'
    · subst line
      exact Or.inr ⟨['n'], rfl, fun rest => rfl⟩
    · rw [if_neg line]
      rcases escapedChar_cases line with ⟨shown, backslash, _, plain⟩ | coded
      · exact Or.inl ⟨shown, quote, backslash, plain⟩
      · exact Or.inr coded

theorem basic?_basicBody (text behind : List Char) :
    basic? (basicBody text ++ '"' :: behind) = some (text, behind) :=
  content?_flatMap (fun c _ => shows_basicChar c) behind

theorem literal?_text {text : List Char} (plain : text.any isCode = false)
    (quotes : '\'' ∉ text) (inLine : '\n' ∉ text) (behind : List Char) :
    literal? (text ++ '\'' :: behind) = some (text, behind) := by
  induction text with
  | nil => rfl
  | cons c text ih =>
      simp only [List.any_cons, Bool.or_eq_false_iff] at plain
      simp only [List.mem_cons, not_or] at quotes inLine
      have visible := isTextChar_of_isCode plain.1 (Ne.symm inLine.1)
      simp [literal?, Ne.symm quotes.1, visible, ih plain.2 quotes.2 inLine.2, prepend]

/-! ## Three double quotes -/

theorem longBasic?_pass (code rest : List Char) :
    longBasic? (.content code.length) (code ++ rest) = longBasic? (.content 0) rest := by
  induction code with
  | nil => rfl
  | cons c code ih => 
      rw [List.length_cons, List.cons_append, longBasic?]
      exact ih

theorem longBasic?_escape {code : List Char} {c : Char} (encodes : Encodes escape? code c)
    (rest : List Char) :
    longBasic? (.content 0) ('\\' :: (code ++ rest)) =
      prepend c (longBasic? (.content 0) rest) := by
  simp [longBasic?, encodes rest, longBasic?_pass]

theorem longBasic?_quote {rest : List Char} (goesOn : isClosed '"' rest = false) :
    longBasic? (.content 0) ('"' :: rest) = prepend '"' (longBasic? (.content 0) rest) := by
  simp [longBasic?, goesOn]

theorem longBasic?_close {behind : List Char} (ends : behind.head? ≠ some '"') (count : Nat)
    (few : count ≤ 2) :
    longBasic? (.content 0) (List.replicate count '"' ++ '"' :: '"' :: '"' :: behind) =
      some (List.replicate count '"', behind) := by
  rw [replicate_append_three]
  simp [longBasic?, isClosed, closing_replicate ends few]

/-- The body of a text starts with a quote only if the text does, and if the quote
is not the third. -/
theorem head?_longBody {run : Nat} {c : Char} (starts : c ≠ '"' ∨ 2 ≤ run)
    (text more : List Char) : (longBody run (c :: text) ++ more).head? ≠ some '"' := by
  unfold longBody
  by_cases quote : c = '"'
  · have third : ¬ run < 2 := by
      rcases starts with other | third
      · exact absurd quote other
      · omega
    simp [quote, third]
  · by_cases line : c = '\n'
    · simp [line]
    · rcases escapedChar_head line with ⟨first, rest, shown, _, _, other⟩
      simp only [if_neg quote, if_neg line, shown]
      exact fun same => quote (other (Option.some.inj same))

/-- Behind a quote of a text, either nothing but quotes is left up to the closing
ones, or the quote is not taken for one of these. -/
theorem longBody_closes_or {run : Nat} (positive : 0 < run) (few : run ≤ 2)
    (text behind : List Char) :
    (Exists fun count => run + count ≤ 2 ∧ text = List.replicate count '"' ∧
      longBody run text = List.replicate count '"') ∨
    isClosed '"' (longBody run text ++ '"' :: '"' :: '"' :: behind) = false := by
  cases text with
  | nil => exact Or.inl ⟨0, few, rfl, rfl⟩
  | cons c text =>
      by_cases starts : c ≠ '"' ∨ 2 ≤ run
      · exact Or.inr (isClosed_of_head (head?_longBody starts _ _))
      · have quote : c = '"' := Decidable.of_not_not fun other => starts (Or.inl other)
        have single : run = 1 := by
          have first : ¬ 2 ≤ run := fun third => starts (Or.inr third)
          omega
        subst quote
        subst single
        cases text with
        | nil => exact Or.inl ⟨1, by omega, rfl, rfl⟩
        | cons d text =>
            right
            have shown : longBody 1 ('"' :: d :: text) = '"' :: longBody 2 (d :: text) := rfl
            rw [shown, List.cons_append, isClosed_cons_self]
            exact decide_eq_false (head?_longBody (Or.inr (Nat.le_refl 2)) _ _)

theorem longBasic?_longBody (run : Nat) (text : List Char) {behind : List Char}
    (ends : behind.head? ≠ some '"') :
    longBasic? (.content 0) (longBody run text ++ '"' :: '"' :: '"' :: behind) =
      some (text, behind) := by
  induction text generalizing run with
  | nil => exact longBasic?_close ends 0 (Nat.zero_le 2)
  | cons c text ih =>
      by_cases quote : c = '"'
      · subst quote
        by_cases few : run < 2
        · have shown : longBody run ('"' :: text) = '"' :: longBody (run + 1) text := by
            simp [longBody, few]
          rw [shown]
          rcases longBody_closes_or (Nat.succ_pos run) few text behind with
            ⟨count, bound, rfl, same⟩ | goesOn
          · -- The reader sees the end here already, and takes these quotes from before it.
            rw [same]
            exact longBasic?_close ends (count + 1) (by omega)
          · rw [List.cons_append, longBasic?_quote goesOn, ih]
            rfl
        · have shown : longBody run ('"' :: text) = '\\' :: (['"'] ++ longBody 0 text) := by
            simp [longBody, few]
          have encodes : Encodes escape? ['"'] '"' := fun rest => rfl
          rw [shown, List.cons_append, List.append_assoc, longBasic?_escape encodes, ih]
          rfl
      · by_cases line : c = '\n'
        · subst line
          simp [longBody, longBasic?, ih, prepend]
        · have shown : longBody run (c :: text) = escapedChar c ++ longBody 0 text := by
            simp [longBody, quote, line]
          rw [shown, List.append_assoc]
          rcases escapedChar_cases line with
            ⟨plain, backslash, carriage, visible⟩ | ⟨code, plain, encodes⟩
          · simp [plain, longBasic?, quote, backslash, carriage, visible, ih, prepend]
          · rw [plain, List.cons_append, longBasic?_escape encodes, ih]
            rfl

/-! ## Three single quotes -/

theorem hasRun_mono {c : Char} {length seen more : Nat} {text : List Char} (le : seen ≤ more)
    (run : hasRun c length seen text = true) : hasRun c length more text = true := by
  induction text generalizing seen more with
  | nil =>
      simp only [hasRun, decide_eq_true_eq] at run ⊢
      omega
  | cons d text ih =>
      simp only [hasRun, Bool.or_eq_true, decide_eq_true_eq] at run ⊢
      rcases run with long | later
      · exact Or.inl (by omega)
      · right
        by_cases same : d = c
        · rw [if_pos same] at later ⊢
          exact ih (by omega) later
        · rw [if_neg same] at later ⊢
          exact later

theorem longLiteral?_close {behind : List Char} (ends : behind.head? ≠ some '\'') (count : Nat)
    (few : count ≤ 2) :
    longLiteral? (List.replicate count '\'' ++ '\'' :: '\'' :: '\'' :: behind) =
      some (List.replicate count '\'', behind) := by
  rw [replicate_append_three]
  simp [longLiteral?, isClosed, closing_replicate ends few]

/-- Behind a quote of a text without three in a row, either at most one more quote
is left, or the quote is not taken for one of the closing ones. -/
theorem literal_closes_or {quote : Char} {text : List Char}
    (few : hasRun quote 3 1 text = false) (behind : List Char) :
    (Exists fun count => count + 1 ≤ 2 ∧ text = List.replicate count quote) ∨
      isClosed quote (text ++ quote :: quote :: quote :: behind) = false := by
  cases text with
  | nil => exact Or.inl ⟨0, by omega, rfl⟩
  | cons c text =>
      by_cases same : c = quote
      · subst same
        cases text with
        | nil => exact Or.inl ⟨1, by omega, rfl⟩
        | cons d text =>
            have other : d ≠ c := by
              -- It would be the third quote in a row.
              rintro rfl
              cases text <;> simp [hasRun] at few
            right
            rw [List.cons_append, isClosed_cons_self]
            simp [other]
      · exact Or.inr (isClosed_of_head (by simp [same]))

theorem longLiteral?_text {text : List Char} (plain : text.any isCode = false)
    (few : hasRun '\'' 3 0 text = false) {behind : List Char} (ends : behind.head? ≠ some '\'') :
    longLiteral? (text ++ '\'' :: '\'' :: '\'' :: behind) = some (text, behind) := by
  induction text with
  | nil => exact longLiteral?_close ends 0 (Nat.zero_le 2)
  | cons c text ih =>
      simp only [List.any_cons, Bool.or_eq_false_iff] at plain
      by_cases quote : c = '\''
      · subst quote
        have later : hasRun '\'' 3 1 text = false := by simpa [hasRun] using few
        have rest : hasRun '\'' 3 0 text = false := by
          apply Bool.eq_false_iff.mpr
          intro run
          rw [hasRun_mono (Nat.zero_le 1) run] at later
          cases later
        rcases literal_closes_or later behind with ⟨count, bound, rfl⟩ | goesOn
        · exact longLiteral?_close ends (count + 1) bound
        · have visible : isTextChar '\'' = true := by decide
          simp [longLiteral?, goesOn, visible, ih plain.2 rest, prepend]
      · have rest : hasRun '\'' 3 0 text = false := by simpa [hasRun, quote] using few
        have carriage := ne_return_of_isCode plain.1
        by_cases line : c = '\n'
        · subst line
          simp [longLiteral?, ih plain.2 rest, prepend]
        · have visible := isTextChar_of_isCode plain.1 line
          simp [longLiteral?, quote, carriage, visible, ih plain.2 rest, prepend]

/-! ## Any form -/

theorem text?_double {rest : List Char} (single : isClosed '"' rest = false) :
    text? ('"' :: rest) = basic? rest := by
  unfold text?
  split
  next three =>
    cases three
    simp [isClosed] at single
  next impossible => cases impossible
  next same =>
    cases same
    rfl
  next impossible => cases impossible
  next other _ => exact absurd rfl (other rest)

theorem text?_single {rest : List Char} (single : isClosed '\'' rest = false) :
    text? ('\'' :: rest) = literal? rest := by
  unfold text?
  split
  next impossible => cases impossible
  next three =>
    cases three
    simp [isClosed] at single
  next impossible => cases impossible
  next same =>
    cases same
    rfl
  next other => exact absurd rfl (other rest)

/-- Only a line break that was added is dropped behind opening quotes. -/
theorem dropBreak_inThree {text body : List Char}
    (starts : '\n' ∉ text -> body.head? ≠ some '\n' ∧ body.head? ≠ some '\r') :
    dropBreak ((if text.contains '\n' then ['\n'] else []) ++ body) = body := by
  by_cases breaks : '\n' ∈ text
  · have contains : text.contains '\n' = true := List.contains_iff_mem.mpr breaks
    rw [contains]
    rfl
  · have contains : text.contains '\n' = false := by simpa using breaks
    rw [contains]
    have heads := starts breaks
    cases body with
    | nil => rfl
    | cons c body => 
        simp only [List.head?_cons, ne_eq, Option.some.injEq] at heads
        simp [dropBreak, heads]

theorem text?_inDouble (text : List Char) {behind : List Char}
    (ends : behind.head? ≠ some '"') :
    text? (inDouble text ++ behind) = some (text, behind) := by
  have whole : inDouble text ++ behind = '"' :: (basicBody text ++ '"' :: behind) := by
    simp [inDouble]
  have single : isClosed '"' (basicBody text ++ '"' :: behind) = false := by
    cases text with
    | nil =>
        rw [basicBody, List.flatMap_nil, List.nil_append, isClosed_cons_self]
        exact decide_eq_false ends
    | cons c text =>
        apply isClosed_of_head
        rcases shows_basicChar c with ⟨shown, quote, _, _⟩ | ⟨code, shown, _⟩
        · simp [basicBody, shown, quote]
        · simp [basicBody, shown]
  rw [whole, text?_double single, basic?_basicBody]

theorem text?_inSingle {text : List Char} (plain : text.any isCode = false)
    (quotes : '\'' ∉ text) (inLine : '\n' ∉ text) {behind : List Char}
    (ends : behind.head? ≠ some '\'') :
    text? ('\'' :: (text ++ ['\'']) ++ behind) = some (text, behind) := by
  have whole : '\'' :: (text ++ ['\'']) ++ behind = '\'' :: (text ++ '\'' :: behind) := by simp
  have single : isClosed '\'' (text ++ '\'' :: behind) = false := by
    cases text with
    | nil =>
        rw [List.nil_append, isClosed_cons_self]
        exact decide_eq_false ends
    | cons c text =>
        simp only [List.mem_cons, not_or] at quotes
        exact isClosed_of_head (by simp [Ne.symm quotes.1])
  rw [whole, text?_single single, literal?_text plain quotes inLine]

theorem text?_longDouble (text : List Char) {behind : List Char}
    (ends : behind.head? ≠ some '"') :
    text? (inThree '"' text (longBody 0 text) ++ behind) = some (text, behind) := by
  have whole : inThree '"' text (longBody 0 text) ++ behind =
      '"' :: '"' :: '"' :: ((if text.contains '\n' then ['\n'] else []) ++
        (longBody 0 text ++ '"' :: '"' :: '"' :: behind)) := by
    simp [inThree]
  have starts : '\n' ∉ text ->
      (longBody 0 text ++ '"' :: '"' :: '"' :: behind).head? ≠ some '\n' ∧
        (longBody 0 text ++ '"' :: '"' :: '"' :: behind).head? ≠ some '\r' := by
    intro inLine
    cases text with
    | nil => simp [longBody]
    | cons c text =>
        simp only [List.mem_cons, not_or] at inLine
        have line := Ne.symm inLine.1
        by_cases quote : c = '"'
        · simp [longBody, quote]
        · rcases escapedChar_head line with ⟨first, rest, shown, breaks, carriage, _⟩
          simp [longBody, quote, line, shown, breaks, carriage]
  rw [whole, text?, dropBreak_inThree starts, longBasic?_longBody 0 text ends]

theorem text?_longSingle {text : List Char} (plain : text.any isCode = false)
    (few : hasRun '\'' 3 0 text = false) {behind : List Char} (ends : behind.head? ≠ some '\'') :
    text? (inThree '\'' text text ++ behind) = some (text, behind) := by
  have whole : inThree '\'' text text ++ behind =
      '\'' :: '\'' :: '\'' :: ((if text.contains '\n' then ['\n'] else []) ++
        (text ++ '\'' :: '\'' :: '\'' :: behind)) := by
    simp [inThree]
  have starts : '\n' ∉ text ->
      (text ++ '\'' :: '\'' :: '\'' :: behind).head? ≠ some '\n' ∧
        (text ++ '\'' :: '\'' :: '\'' :: behind).head? ≠ some '\r' := by
    intro inLine
    cases text with
    | nil => simp
    | cons c text =>
        simp only [List.mem_cons, not_or] at inLine
        simp only [List.any_cons, Bool.or_eq_false_iff] at plain
        simp [Ne.symm inLine.1, ne_return_of_isCode plain.1]
  rw [whole, text?, dropBreak_inThree starts, longLiteral?_text plain few ends]

/-- A text is read back from the form that the writer chooses for it. -/
theorem text?_textChars (text : List Char) {behind : List Char}
    (double : behind.head? ≠ some '"') (single : behind.head? ≠ some '\'') :
    text? (textChars text ++ behind) = some (text, behind) := by
  unfold textChars
  simp only
  split
  next => exact text?_inDouble text double
  next =>
    split
    next suits =>
      simp only [Bool.and_eq_true, Bool.not_eq_true', List.contains_eq_mem,
        decide_eq_false_iff_not] at suits
      exact text?_inSingle suits.1.1 suits.1.2 suits.2 single
    next =>
      split
      next => exact text?_longDouble text double
      next =>
        split
        next suits =>
          simp only [Bool.and_eq_true, Bool.not_eq_true'] at suits
          exact text?_longSingle suits.1 suits.2 single
        next =>
          split
          next => exact text?_longDouble text double
          next => exact text?_inDouble text double

/-- Written text starts with a quote. -/
theorem textChars_head (text : List Char) :
    Exists fun quote => Exists fun rest => textChars text = quote :: rest ∧
      (quote = '"' ∨ quote = '\'') := by
  unfold textChars inDouble inThree
  simp only
  repeat' split
  all_goals first
    | exact ⟨'"', _, rfl, Or.inl rfl⟩
    | exact ⟨'\'', _, rfl, Or.inr rfl⟩

end Quoted
end Toml
end CorpusQuery
