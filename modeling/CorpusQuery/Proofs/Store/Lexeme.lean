import CorpusQuery.Comparison
import CorpusQuery.Text.Join
import CorpusQuery.Text.Literal

namespace CorpusQuery
namespace Store

/-!
# Lexemes of the store

The store reads a selection in two steps.  The first cuts the characters into
lexemes: values, relations, parentheses and commas.  A value is a path of names
with dots between them, an integer, or a literal between single quotes in which
two quotes stand for one.  A keyword is a path of one name and gets its meaning
from where it stands, so no name is reserved.

`Lexes` says that a text is cut into given lexemes whatever follows it, as long
as what follows does not continue its last lexeme.  Texts are put together from
parts, and `Lexes` follows the parts.
-/

inductive Value where
  /-- Names that lead from an alias to a property. -/
  | path (names : List String)
  | number (value : Int)
  | text (text : String)
  deriving DecidableEq, Repr

inductive Lexeme where
  | value (value : Value)
  | relation (relation : Relation)
  | opening
  | closing
  | comma
  deriving DecidableEq, Repr

def keyword (name : String) : Lexeme :=
  .value (.path [name])

def isNameStart (c : Char) : Bool :=
  c.isAlpha || c = '_'

def isNameChar (c : Char) : Bool :=
  c.isAlphanum || c = '_'

/-- The characters of paths and integers, which are read as one run. -/
def isRunChar (c : Char) : Bool :=
  isNameChar c || c = '.' || c = '-'

/-- A plain identifier. -/
def isName (name : String) : Bool :=
  match name.toList with
  | [] => false
  | c :: rest => isNameStart c && rest.all isNameChar

/-- The parts of a text between its dots. -/
def dotted (text : String) : List String :=
  (text.toList.splitOn '.').map String.ofList

def isPath (text : String) : Bool :=
  (dotted text).all isName

/-- The value of a run: a path if it starts like a name, and else an integer. -/
def runValue? (run : String) : Option Value :=
  if run.toList.head?.any isNameStart then
    if isPath run then some (.path (dotted run)) else none
  else (Text.integer? run.toList).map .number

/-- The body of a literal after its opening quote, and what follows the closing
one. -/
def literalBody? : List Char -> Option (List Char × List Char)
  | [] => none
  | ['\''] => some ([], [])
  | '\'' :: c :: rest =>
    if c = '\'' then (literalBody? rest).map fun (body, after) => ('\'' :: body, after)
    else some ([], c :: rest)
  | c :: rest => (literalBody? rest).map fun (body, after) => (c :: body, after)

def symbol? : List Char -> Option (Lexeme × List Char)
  | '(' :: rest => some (.opening, rest)
  | ')' :: rest => some (.closing, rest)
  | ',' :: rest => some (.comma, rest)
  | '=' :: rest => some (.relation .equal, rest)
  | '<' :: '>' :: rest => some (.relation .notEqual, rest)
  | '<' :: '=' :: rest => some (.relation .lessOrEqual, rest)
  | '<' :: rest => some (.relation .less, rest)
  | '>' :: '=' :: rest => some (.relation .greaterOrEqual, rest)
  | '>' :: rest => some (.relation .greater, rest)
  | _ => none

/-- The lexeme at the start of the characters, and what follows it. -/
def lexeme? : List Char -> Option (Lexeme × List Char)
  | [] => none
  | c :: rest =>
    if c = '\'' then
      (literalBody? rest).map fun (body, after) => (.value (.text (String.ofList body)), after)
    else if isRunChar c then
      (runValue? (String.ofList (c :: rest.takeWhile isRunChar))).map fun value =>
        (.value value, rest.dropWhile isRunChar)
    else symbol? (c :: rest)

theorem literalBody?_length {chars body after : List Char}
    (read : literalBody? chars = some (body, after)) : after.length < chars.length := by
  fun_induction literalBody? chars generalizing body with
  | case1 => cases read
  | case2 => cases read; simp
  | case3 rest ih =>
      rcases Option.map_eq_some_iff.mp read with ⟨⟨inner, ending⟩, found, same⟩
      cases same
      have shorter := ih found
      simp only [List.length_cons]
      omega
  | case4 c rest _ => cases read; simp
  | case5 c rest _ _ ih =>
      rcases Option.map_eq_some_iff.mp read with ⟨⟨inner, ending⟩, found, same⟩
      cases same
      have shorter := ih found
      simp only [List.length_cons]
      omega

theorem symbol?_length {chars after : List Char} {lexeme : Lexeme}
    (read : symbol? chars = some (lexeme, after)) : after.length < chars.length := by
  unfold symbol? at read
  split at read <;> cases read <;> simp only [List.length_cons] <;> omega

theorem lexeme?_length {chars after : List Char} {lexeme : Lexeme}
    (read : lexeme? chars = some (lexeme, after)) : after.length < chars.length := by
  cases chars with
  | nil => cases read
  | cons c rest =>
      rw [lexeme?] at read
      split at read
      · rcases Option.map_eq_some_iff.mp read with ⟨⟨body, ending⟩, found, same⟩
        cases same
        exact Nat.lt_succ_of_lt (literalBody?_length found)
      · split at read
        · rcases Option.map_eq_some_iff.mp read with ⟨value, _, same⟩
          cases same
          exact Nat.lt_succ_of_le (List.dropWhile_sublist isRunChar).length_le
        · exact symbol?_length read

/-- All lexemes of a text, with spaces between them. -/
def lexemes? (chars : List Char) : Option (List Lexeme) :=
  match chars with
  | [] => some []
  | c :: rest =>
    if c = ' ' then lexemes? rest
    else
      match _read : lexeme? (c :: rest) with
      | none => none
      | some (first, after) => (lexemes? after).map (first :: ·)
termination_by chars.length
decreasing_by
  · exact Nat.lt_succ_self rest.length
  · exact lexeme?_length (by assumption)

theorem lexemes?_blank (rest : List Char) : lexemes? (' ' :: rest) = lexemes? rest := by
  rw [lexemes?, if_pos rfl]

theorem lexemes?_of_lexeme? {c : Char} {rest after : List Char} {lexeme : Lexeme}
    (visible : c ≠ ' ')
    (read : lexeme? (c :: rest) = some (lexeme, after)) :
    lexemes? (c :: rest) = (lexemes? after).map (lexeme :: ·) := by
  rw [lexemes?, if_neg visible]
  split
  · rename_i none
    rw [read] at none
    cases none
  · rename_i first ending found
    rw [read] at found
    cases found
    rfl

/-! ## Characters of names and integers -/

theorem isRunChar_of_isNameChar {c : Char} (inside : isNameChar c = true) : isRunChar c = true := by
  rw [isRunChar, inside]
  rfl

theorem isNameChar_of_isNameStart {c : Char} (start : isNameStart c = true) :
    isNameChar c = true := by
  unfold isNameStart at start
  unfold isNameChar Char.isAlphanum
  cases letter : c.isAlpha <;> rw [letter] at start
  · rw [Bool.false_or] at start
    rw [start, Bool.or_true]
  · rfl

theorem isName_cases {name : String} (named : isName name = true) :
    Exists fun c => Exists fun rest => name.toList = c :: rest ∧ isNameStart c = true ∧
      forall d, d ∈ name.toList -> isNameChar d = true := by
  unfold isName at named
  cases chars : name.toList with
  | nil => rw [chars] at named; cases named
  | cons c rest =>
      rw [chars] at named
      have both := Bool.and_eq_true_iff.mp named
      refine ⟨c, rest, rfl, both.1, ?_⟩
      intro d member
      rcases List.mem_cons.mp member with same | later
      · rw [same]
        exact isNameChar_of_isNameStart both.1
      · exact List.all_eq_true.mp both.2 d later

theorem dot_not_mem_of_isName {name : String} (named : isName name = true) : '.' ∉ name.toList := by
  intro member
  rcases isName_cases named with ⟨_, _, _, _, inside⟩
  have dot := inside '.' member
  revert dot
  decide

theorem toList_join (separator : String) (parts : List String) :
    (Text.join separator parts).toList =
      separator.toList.intercalate (parts.map String.toList) := by
  induction parts with
  | nil => rfl
  | cons part rest ih =>
      cases rest with
      | nil => simp [Text.join]
      | cons next rest =>
          rw [Text.join, String.toList_append, String.toList_append, ih]
          simp [List.intercalate_cons_cons]

/-- Names joined by dots are their own parts. -/
theorem dotted_join {names : List String} (nonempty : names ≠ [])
    (named : forall name, name ∈ names -> isName name = true) :
    dotted (Text.join "." names) = names := by
  have split : (Text.join "." names).toList.splitOn '.' = names.map String.toList := by
    rw [toList_join]
    refine List.splitOn_intercalate '.' ?_ (by simpa using nonempty)
    intro chars member
    rcases List.mem_map.mp member with ⟨name, among, same⟩
    rw [<- same]
    exact dot_not_mem_of_isName (named name among)
  rw [dotted, split, List.map_map]
  simp [Function.comp_def]

theorem isPath_join {names : List String} (nonempty : names ≠ [])
    (named : forall name, name ∈ names -> isName name = true) :
    isPath (Text.join "." names) = true := by
  rw [isPath, dotted_join nonempty named]
  exact List.all_eq_true.mpr named

theorem dotted_of_isName {name : String} (named : isName name = true) : dotted name = [name] := by
  have joined : dotted (Text.join "." [name]) = [name] :=
    dotted_join (List.cons_ne_nil name []) (by simpa using named)
  exact joined

theorem isPath_of_isName {name : String} (named : isName name = true) : isPath name = true := by
  rw [isPath, dotted_of_isName named, List.all_cons, named]
  rfl

/-- A path is the join of its names. -/
theorem join_dotted (text : String) : Text.join "." (dotted text) = text := by
  apply String.toList_injective
  rw [toList_join, dotted, List.map_map]
  have same : (String.toList ∘ String.ofList) = id := by
    funext chars
    simp
  rw [same, List.map_id]
  exact List.intercalate_splitOn '.'

theorem isRunChar_of_mem_join {names : List String}
    (named : forall name, name ∈ names -> isName name = true) :
    forall c, c ∈ (Text.join "." names).toList -> isRunChar c = true := by
  have inside : forall name, name ∈ names -> forall c, c ∈ name.toList -> isRunChar c = true := by
    intro name among c member
    rcases isName_cases (named name among) with ⟨_, _, _, _, each⟩
    exact isRunChar_of_isNameChar (each c member)
  induction names with
  | nil =>
      intro c member
      cases member
  | cons first rest ih =>
      cases rest with
      | nil => exact inside first (List.mem_singleton.mpr rfl)
      | cons next rest =>
          intro c member
          rw [Text.join, String.toList_append, String.toList_append] at member
          rcases List.mem_append.mp member with before | later
          · rcases List.mem_append.mp before with within | dot
            · exact inside first List.mem_cons_self c within
            · have same : c = '.' := List.mem_singleton.mp dot
              rw [same]
              decide
          · exact ih (fun name among => named name (List.mem_cons_of_mem first among))
              (fun name among => inside name (List.mem_cons_of_mem first among)) c later

theorem dotted_ne_nil (text : String) : dotted text ≠ [] := by
  intro none
  exact List.splitOn_ne_nil '.' text.toList (List.map_eq_nil_iff.mp none)

theorem head_of_isPath {text : String} (path : isPath text = true) :
    Exists fun c => Exists fun rest => text.toList = c :: rest ∧ isNameStart c = true := by
  have named := List.all_eq_true.mp path
  have same := join_dotted text
  cases names : dotted text with
  | nil => exact absurd names (dotted_ne_nil text)
  | cons first more =>
      rw [names] at named same
      rcases isName_cases (named first List.mem_cons_self) with ⟨c, rest, chars, start, _⟩
      rw [<- same]
      cases more with
      | nil => exact ⟨c, rest, chars, start⟩
      | cons next more =>
          rw [Text.join, String.toList_append, String.toList_append, chars]
          exact ⟨c, _, rfl, start⟩

theorem runValue?_of_isPath {text : String} (path : isPath text = true) :
    runValue? text = some (.path (dotted text)) := by
  rcases head_of_isPath path with ⟨c, rest, chars, start⟩
  rw [runValue?, chars, List.head?_cons, Option.any_some, if_pos start, if_pos path]

/-! ## Integers -/

theorem isDigit_eq (c : Char) : Text.isDigit c = c.isDigit := by
  simp only [Text.isDigit, Char.isDigit, Char.le_def]

theorem isDigit_of_mem_repr {n : Nat} {c : Char} (member : c ∈ (Nat.repr n).toList) :
    Text.isDigit c = true := by
  rw [Nat.toList_repr] at member
  rw [isDigit_eq]
  exact Nat.isDigit_of_mem_toDigits (by decide) (by decide) member

theorem repr_cons (n : Nat) :
    Exists fun c => Exists fun rest => (Nat.repr n).toList = c :: rest ∧ Text.isDigit c = true := by
  cases chars : (Nat.repr n).toList with
  | nil =>
      rw [Nat.toList_repr] at chars
      exact absurd chars Nat.toDigits_ne_nil
  | cons c rest =>
      have member : c ∈ (Nat.repr n).toList := by
        rw [chars]
        exact List.mem_cons_self
      exact ⟨c, rest, rfl, isDigit_of_mem_repr member⟩

theorem natural?_repr (n : Nat) : Text.natural? (Nat.repr n).toList = some n := by
  rcases repr_cons n with ⟨c, rest, chars, _⟩
  have digits : (Nat.repr n).toList.all Text.isDigit = true :=
    List.all_eq_true.mpr fun _ member => isDigit_of_mem_repr member
  have value : Nat.ofDigitChars 10 (Nat.repr n).toList 0 = n := by
    rw [Nat.toList_repr, Nat.ofDigitChars_ten_toDigits]
  rw [Text.natural?, digits, value, chars]
  rfl

theorem ne_of_isDigit {c other : Char} (digit : Text.isDigit c = true)
    (outside : Text.isDigit other = false) : c ≠ other := by
  intro same
  rw [same, outside] at digit
  cases digit

theorem isNameChar_of_isDigit {c : Char} (digit : Text.isDigit c = true) : isNameChar c = true := by
  rw [isDigit_eq] at digit
  rw [isNameChar, Char.isAlphanum, digit, Bool.or_true]
  rfl

theorem isRunChar_of_isDigit {c : Char} (digit : Text.isDigit c = true) : isRunChar c = true :=
  isRunChar_of_isNameChar (isNameChar_of_isDigit digit)

theorem not_isAlpha_of_isDigit {c : Char} (digit : Text.isDigit c = true) : c.isAlpha = false := by
  simp only [Text.isDigit, Bool.and_eq_true, decide_eq_true_eq, Char.le_def,
    UInt32.le_iff_toNat_le] at digit
  have small : c.val.toNat ≤ 57 := digit.2
  have beyond : forall letter : Char, 57 < letter.val.toNat -> ¬ c.val ≥ letter.val := by
    intro letter large above
    have order := UInt32.le_iff_toNat_le.mp above
    omega
  have upper : c.isUpper = false := decide_eq_false fun letter => beyond 'A' (by decide) letter.1
  have lower : c.isLower = false :=
    Bool.and_eq_false_imp.mpr fun letter =>
      absurd (of_decide_eq_true letter) (beyond 'a' (by decide))
  exact Bool.or_eq_false_iff.mpr ⟨upper, lower⟩

theorem not_isNameStart_of_isDigit {c : Char} (digit : Text.isDigit c = true) :
    isNameStart c = false := by
  have underscore : c ≠ '_' := ne_of_isDigit digit (by decide)
  rw [isNameStart, not_isAlpha_of_isDigit digit, decide_eq_false underscore]
  rfl

theorem integer?_repr (n : Nat) : Text.integer? (Nat.repr n).toList = some (Int.ofNat n) := by
  have read := natural?_repr n
  rcases repr_cons n with ⟨c, rest, chars, digit⟩
  rw [chars] at read ⊢
  have plus : c ≠ '+' := ne_of_isDigit digit (by decide)
  have minus : c ≠ '-' := ne_of_isDigit digit (by decide)
  simp [Text.integer?, plus, minus, read]

theorem integer?_integerText (value : Int) :
    Text.integer? (Text.integerText value).toList = some value := by
  cases value with
  | ofNat n => exact integer?_repr n
  | negSucc n =>
      rw [Text.integerText, String.toList_append]
      change (Text.natural? (Nat.repr (n + 1)).toList).map (fun n => -Int.ofNat n) = _
      rw [natural?_repr]
      rfl

theorem runValue?_integerText (value : Int) :
    runValue? (Text.integerText value) = some (.number value) := by
  have start : (Text.integerText value).toList.head?.any isNameStart = false := by
    cases value with
    | ofNat n =>
        rcases repr_cons n with ⟨c, rest, chars, digit⟩
        rw [Text.integerText, chars]
        exact not_isNameStart_of_isDigit digit
    | negSucc n =>
        rw [Text.integerText, String.toList_append]
        change isNameStart '-' = false
        decide
  rw [runValue?, start, integer?_integerText]
  rfl

theorem isRunChar_of_mem_integerText {value : Int} :
    forall c, c ∈ (Text.integerText value).toList -> isRunChar c = true := by
  intro c member
  cases value with
  | ofNat n => exact isRunChar_of_isDigit (isDigit_of_mem_repr member)
  | negSucc n =>
      rw [Text.integerText, String.toList_append] at member
      rcases List.mem_append.mp member with sign | digit
      · have same : c = '-' := List.mem_singleton.mp sign
        rw [same]
        decide
      · exact isRunChar_of_isDigit (isDigit_of_mem_repr digit)

/-! ## Texts and what follows them -/

/-- Whether a character cannot continue the lexeme before it. -/
def endsLexeme (c : Char) : Bool :=
  !isRunChar c && c != '\'' && c != '=' && c != '>'

/-- What follows starts a new lexeme. -/
def Apart (rest : List Char) : Prop :=
  rest.head?.all endsLexeme = true

instance (rest : List Char) : Decidable (Apart rest) :=
  inferInstanceAs (Decidable (_ = true))

/-- The text is cut into the lexemes, if nothing continues the last of them. -/
def Lexes (text : String) (lexemes : List Lexeme) : Prop :=
  forall rest, Apart rest ->
    lexemes? (text.toList ++ rest) = (lexemes? rest).map (lexemes ++ ·)

/-- The text is cut into the lexemes, and nothing can continue the last of
them. -/
def Seals (text : String) (lexemes : List Lexeme) : Prop :=
  forall rest, lexemes? (text.toList ++ rest) = (lexemes? rest).map (lexemes ++ ·)

theorem Seals.lexes {text : String} {lexemes : List Lexeme} (sealed : Seals text lexemes) :
    Lexes text lexemes :=
  fun rest _ => sealed rest

theorem Apart.append {chars rest : List Char} (first : Apart chars) (second : Apart rest) :
    Apart (chars ++ rest) := by
  cases chars with
  | nil => exact second
  | cons c more => exact first

/-- The first text is cut as it should be before the second, so both are. -/
theorem lexemes?_append {first second : String} {before after : List Lexeme} {rest : List Char}
    (one : lexemes? (first.toList ++ (second.toList ++ rest)) =
      (lexemes? (second.toList ++ rest)).map (before ++ ·))
    (two : lexemes? (second.toList ++ rest) = (lexemes? rest).map (after ++ ·)) :
    lexemes? ((first ++ second).toList ++ rest) = (lexemes? rest).map (before ++ after ++ ·) := by
  rw [String.toList_append, List.append_assoc, one, two, Option.map_map]
  congr 1
  funext lexemes
  exact (List.append_assoc before after lexemes).symm

theorem Lexes.append {first second : String} {before after : List Lexeme}
    (one : Lexes first before) (two : Lexes second after) (apart : Apart second.toList) :
    Lexes (first ++ second) (before ++ after) :=
  fun rest follows => lexemes?_append (one _ (apart.append follows)) (two rest follows)

theorem Seals.append {first second : String} {before after : List Lexeme}
    (one : Seals first before) (two : Lexes second after) :
    Lexes (first ++ second) (before ++ after) :=
  fun rest follows => lexemes?_append (one _) (two rest follows)

theorem Lexes.seal {first second : String} {before after : List Lexeme}
    (one : Lexes first before) (two : Seals second after)
    (opens : second.toList.head?.any endsLexeme = true) :
    Seals (first ++ second) (before ++ after) := by
  intro rest
  refine lexemes?_append (one _ ?_) (two rest)
  cases chars : second.toList with
  | nil =>
      rw [chars] at opens
      cases opens
  | cons c more =>
      rw [chars] at opens
      exact opens

theorem lexemes?_of_lexes {text : String} {lexemes : List Lexeme} (lexes : Lexes text lexemes) :
    lexemes? text.toList = some lexemes := by
  have whole := lexes [] rfl
  rw [List.append_nil, lexemes?, Option.map_some, List.append_nil] at whole
  exact whole

/-! ## Single lexemes -/

theorem takeWhile_run {run rest : List Char} (inside : forall c, c ∈ run -> isRunChar c = true)
    (follows : Apart rest) :
    (run ++ rest).takeWhile isRunChar = run ∧ (run ++ rest).dropWhile isRunChar = rest := by
  have stop : rest.takeWhile isRunChar = [] ∧ rest.dropWhile isRunChar = rest := by
    cases rest with
    | nil => exact ⟨rfl, rfl⟩
    | cons c more =>
        have outside : isRunChar c = false := by
          simp only [Apart, List.head?_cons, Option.all_some, endsLexeme, Bool.and_eq_true,
            Bool.not_eq_true'] at follows
          exact follows.1.1.1
        simp [outside]
  rw [List.takeWhile_append_of_pos inside, List.dropWhile_append_of_pos inside, stop.1, stop.2,
    List.append_nil]
  exact ⟨rfl, rfl⟩

theorem ne_of_isRunChar {c other : Char} (inside : isRunChar c = true)
    (outside : isRunChar other = false) : c ≠ other := by
  intro same
  rw [same, outside] at inside
  cases inside

theorem lexes_run {text : String} {value : Value} (nonempty : text.toList ≠ [])
    (inside : forall c, c ∈ text.toList -> isRunChar c = true)
    (decoded : runValue? text = some value) : Lexes text [.value value] := by
  intro rest follows
  have taken := takeWhile_run inside follows
  cases chars : text.toList with
  | nil => exact absurd chars nonempty
  | cons c more =>
      rw [chars] at inside taken
      have first : isRunChar c = true := inside c List.mem_cons_self
      have visible : c ≠ ' ' := ne_of_isRunChar first (by decide)
      have unquoted : c ≠ '\'' := ne_of_isRunChar first (by decide)
      have whole : String.ofList (c :: more) = text := by rw [<- chars, String.ofList_toList]
      rw [List.cons_append, List.takeWhile_cons_of_pos first,
        List.dropWhile_cons_of_pos first] at taken
      have read : lexeme? (c :: (more ++ rest)) = some (.value value, rest) := by
        rw [lexeme?, if_neg unquoted, if_pos first, taken.1, taken.2, whole, decoded]
        rfl
      exact lexemes?_of_lexeme? visible read

theorem lexes_path {text : String} (path : isPath text = true) :
    Lexes text [.value (.path (dotted text))] := by
  have named := List.all_eq_true.mp path
  have inside := isRunChar_of_mem_join named
  rw [join_dotted] at inside
  rcases head_of_isPath path with ⟨c, rest, chars, _⟩
  refine lexes_run ?_ inside (runValue?_of_isPath path)
  rw [chars]
  exact List.cons_ne_nil c rest

theorem lexes_keyword {name : String} (named : isName name = true) : Lexes name [keyword name] := by
  have lexes := lexes_path (isPath_of_isName named)
  rw [dotted_of_isName named] at lexes
  exact lexes

theorem lexes_integer (value : Int) : Lexes (Text.integerText value) [.value (.number value)] := by
  refine lexes_run ?_ isRunChar_of_mem_integerText (runValue?_integerText value)
  intro none
  have read := integer?_integerText value
  rw [none] at read
  cases read

theorem literalBody?_doubled {rest : List Char} (follows : rest.head? ≠ some '\'')
    (text : List Char) :
    literalBody? (Text.Literal.doubled text ++ '\'' :: rest) = some (text, rest) := by
  induction text with
  | nil =>
      cases rest with
      | nil => rfl
      | cons c more =>
          have other : c ≠ '\'' := fun same => follows (congrArg some same)
          simp [Text.Literal.doubled, literalBody?, other]
  | cons c text ih =>
      by_cases quote : c = '\''
      · simp [Text.Literal.doubled, quote, literalBody?, ih]
      · simp [Text.Literal.doubled, quote, literalBody?, ih]

/-- A quoted text and what follows it, from the opening quote on. -/
theorem quoteLiteral_append (text : String) (rest : List Char) :
    (Text.quoteLiteral text).toList ++ rest =
      '\'' :: (Text.Literal.doubled text.toList ++ '\'' :: rest) := by
  rw [Text.quoteLiteral, String.toList_ofList, Text.Literal.chars, List.cons_append,
    List.append_assoc]
  rfl

/-- A quoted text is read as far as it goes, if no further quote follows. -/
theorem lexeme?_quoteLiteral {rest : List Char} (follows : rest.head? ≠ some '\'') (text : String) :
    lexeme? ((Text.quoteLiteral text).toList ++ rest) = some (.value (.text text), rest) := by
  rw [quoteLiteral_append, lexeme?, if_pos rfl, literalBody?_doubled follows]
  simp only [Option.map_some, String.ofList_toList]

/-- A quoted text is one lexeme with that text, whatever the text is. -/
theorem lexes_literal (text : String) : Lexes (Text.quoteLiteral text) [.value (.text text)] := by
  intro rest follows
  have other : rest.head? ≠ some '\'' := by
    intro quote
    rw [Apart, quote] at follows
    revert follows
    decide
  have read := lexeme?_quoteLiteral other text
  rw [quoteLiteral_append] at read ⊢
  exact lexemes?_of_lexeme? (by decide) read

theorem lexemes?_of_symbol? {c : Char} {rest after : List Char} {lexeme : Lexeme}
    (outside : (c != ' ' && c != '\'' && !isRunChar c) = true)
    (read : symbol? (c :: rest) = some (lexeme, after)) :
    lexemes? (c :: rest) = (lexemes? after).map (lexeme :: ·) := by
  simp only [Bool.and_eq_true, bne_iff_ne, Bool.not_eq_true'] at outside
  refine lexemes?_of_lexeme? outside.1.1 ?_
  rw [lexeme?, if_neg outside.1.2, outside.2]
  exact read

theorem symbol?_sign (relation : Relation) {rest : List Char} (follows : Apart rest) :
    symbol? (relation.sign.toList ++ rest) = some (.relation relation, rest) := by
  cases rest with
  | nil => cases relation <;> rfl
  | cons c more =>
      have other : c ≠ '=' ∧ c ≠ '>' := by
        simp only [Apart, List.head?_cons, Option.all_some, endsLexeme, Bool.and_eq_true,
          bne_iff_ne] at follows
        exact ⟨follows.1.2, follows.2⟩
      cases relation <;> simp [Relation.sign, symbol?, other.1, other.2]

theorem lexes_relation (relation : Relation) : Lexes relation.sign [.relation relation] := by
  intro rest follows
  have read := symbol?_sign relation follows
  cases relation <;> exact lexemes?_of_symbol? (by decide) read

theorem seals_blank : Seals " " [] := by
  intro rest
  rw [List.nil_append_fun, Option.map_id]
  exact lexemes?_blank rest

theorem seals_opening : Seals "(" [.opening] :=
  fun _ => lexemes?_of_symbol? (by decide) rfl

theorem seals_closing : Seals ")" [.closing] :=
  fun _ => lexemes?_of_symbol? (by decide) rfl

theorem seals_comma : Seals "," [.comma] :=
  fun _ => lexemes?_of_symbol? (by decide) rfl

/-! ## Texts in spaces and parentheses -/

theorem Lexes.space {text : String} {lexemes : List Lexeme} (inner : Lexes text lexemes) :
    Seals (text ++ " ") lexemes := by
  have sealed := inner.seal seals_blank (by decide)
  rw [List.append_nil] at sealed
  exact sealed

theorem Lexes.openAfter {text : String} {lexemes : List Lexeme} (inner : Lexes text lexemes) :
    Seals (text ++ "(") (lexemes ++ [.opening]) :=
  inner.seal seals_opening (by decide)

theorem Lexes.closeAfter {text : String} {lexemes : List Lexeme} (inner : Lexes text lexemes) :
    Seals (text ++ ")") (lexemes ++ [.closing]) :=
  inner.seal seals_closing (by decide)

theorem Lexes.parenthesized {text : String} {lexemes : List Lexeme} (inner : Lexes text lexemes) :
    Lexes ("(" ++ text ++ ")") (.opening :: (lexemes ++ [.closing])) :=
  (seals_opening.append inner).closeAfter.lexes

/-- Texts with a relation between them. -/
theorem Lexes.compared {left right : String} {before after : List Lexeme} (one : Lexes left before)
    (relation : Relation) (two : Lexes right after) :
    Lexes (left ++ " " ++ relation.sign ++ " " ++ right)
      (before ++ .relation relation :: after) := by
  have whole := (one.space.append (lexes_relation relation)).space.append two
  rw [List.append_assoc] at whole
  exact whole

/-! ## Lists and keywords -/

theorem lexes_nil : Lexes "" [] := by
  intro rest _
  rw [List.nil_append_fun, Option.map_id]
  rfl

theorem lexes_join {α : Type} {separator : String} {between : List Lexeme}
    (sealed : Seals separator between) (opens : separator.toList.head?.any endsLexeme = true)
    {write : α -> String} {lexemes : α -> List Lexeme}
    (items : List α) (each : forall item, item ∈ items -> Lexes (write item) (lexemes item)) :
    Lexes (Text.join separator (items.map write)) (between.intercalate (items.map lexemes)) := by
  induction items with
  | nil => exact lexes_nil
  | cons first rest ih =>
      have here := each first List.mem_cons_self
      have later := ih fun item member => each item (List.mem_cons_of_mem first member)
      cases rest with
      | nil =>
          rw [List.map_singleton, List.map_singleton, List.intercalate_singleton]
          exact here
      | cons next rest =>
          simp only [List.map_cons, List.intercalate_cons_cons] at later ⊢
          exact (here.seal sealed opens).append later

/-- Keywords with a space between neighbours. -/
theorem lexes_keywords (names : List String) {text : String} (spelled : text = Text.join " " names)
    (named : names.all isName = true) : Lexes text (names.map keyword) := by
  rw [spelled]
  clear spelled
  induction names with
  | nil => exact lexes_nil
  | cons first rest ih =>
      have both := Bool.and_eq_true_iff.mp named
      have later := ih both.2
      cases rest with
      | nil => exact lexes_keyword both.1
      | cons next rest => exact (lexes_keyword both.1).space.append later

/-- The same with a space at both ends. -/
theorem seals_keywords (names : List String) {text : String}
    (spelled : text = " " ++ Text.join " " names ++ " ") (named : names.all isName = true) :
    Seals text (names.map keyword) := by
  rw [spelled]
  exact (seals_blank.append (lexes_keywords names rfl named)).space

end Store
end CorpusQuery
