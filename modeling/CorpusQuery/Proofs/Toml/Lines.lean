import CorpusQuery.Proofs.Toml.Quoted
import CorpusQuery.Toml.Reader

namespace CorpusQuery
namespace Toml

/-!
# Written documents are read back

A written document consists of lines that assign a text or a list of texts to a
bare key, and of headers between them.  A line carries the value that its
characters are read as (`Line`), and a document is read line by line: each line
adds an assignment in front of what is read behind it.  Keys that differ never
get in each other's way, so the assignments of a section are its entries.

The readers are bounded by numbers of steps.  Every line and every item has
characters of its own, so the bounds that the reader takes from the length of the
text are never reached.
-/

open Quoted Writer

/-! ## Blanks and line breaks -/

theorem dropSpaces_append {spaces : List Char} (blank : spaces.all isSpace = true)
    (rest : List Char) : dropSpaces (spaces ++ rest) = dropSpaces rest :=
  List.dropWhile_append_of_pos (List.all_eq_true.mp blank)

theorem dropSpaces_of_head {c : Char} (visible : isSpace c = false) (rest : List Char) :
    dropSpaces (c :: rest) = c :: rest :=
  List.dropWhile_cons_of_neg (by rw [visible]; decide)

/-- A character at which a value or a bracket may start. -/
def isVisible (c : Char) : Bool :=
  !isSpace c && c != '\n' && c != '\r' && c != '#'

theorem isVisible_iff {c : Char} :
    isVisible c = true <-> isSpace c = false ∧ c ≠ '\n' ∧ c ≠ '\r' ∧ c ≠ '#' := by
  simp [isVisible, and_assoc]

theorem skipLines?_visible {c : Char} (visible : isVisible c = true) (bound : Nat)
    (rest : List Char) : skipLines? (bound + 1) (c :: rest) = some (c :: rest) := by
  rcases isVisible_iff.mp visible with ⟨space, line, carriage, comment⟩
  simp [skipLines?, dropSpaces_of_head space, isBreakBefore, line, carriage, comment]

/-- A line break and blanks before something visible are passed. -/
theorem skipLines?_line {c : Char} (visible : isVisible c = true) {spaces : List Char}
    (blank : spaces.all isSpace = true) (rest : List Char) {bound : Nat} (enough : 2 ≤ bound) :
    skipLines? bound ('\n' :: (spaces ++ c :: rest)) = some (c :: rest) := by
  rcases isVisible_iff.mp visible with ⟨space, line, carriage, comment⟩
  match bound, enough with
  | bound + 2, _ =>
      have first : dropSpaces ('\n' :: (spaces ++ c :: rest)) = '\n' :: (spaces ++ c :: rest) :=
        dropSpaces_of_head (by decide) _
      have second : dropSpaces (spaces ++ c :: rest) = c :: rest := by
        rw [dropSpaces_append blank, dropSpaces_of_head space]
      simp [skipLines?, first, second, isBreakBefore, dropBreak, line, carriage, comment]

theorem endLine?_break (rest : List Char) : endLine? ('\n' :: rest) = some rest := by
  have first : dropSpaces ('\n' :: rest) = '\n' :: rest := dropSpaces_of_head (by decide) rest
  simp [endLine?, first, dropComment, isBreakBefore, dropBreak]

/-! ## Values -/

theorem value?_textChars (bound depth : Nat) (text : String) {behind : List Char}
    (double : behind.head? ≠ some '"') (single : behind.head? ≠ some '\'') :
    value? (bound + 1) depth (textChars text.toList ++ behind) = some (.text text, behind) := by
  have read := text?_textChars text.toList double single
  rcases textChars_head text.toList with ⟨quote, rest, shown, quotes⟩
  rw [shown, List.cons_append] at read ⊢
  simp [value?, quotes, read]

theorem isVisible_of_quote {c : Char} (quote : c = '"' ∨ c = '\'') : isVisible c = true := by
  rcases quote with rfl | rfl <;> decide

theorem items?_close (bound depth : Nat) {chars behind : List Char}
    (skips : skipLines? (chars.length + 1) chars = some (']' :: behind)) :
    items? (bound + 1) depth chars = some ([], behind) := by
  simp [items?, skips]

/-- A text before a comma or the closing bracket is an item. -/
theorem items?_text (bound depth : Nat) {chars behind : List Char} (text : String) {c : Char}
    (skips : skipLines? (chars.length + 1) chars = some (textChars text.toList ++ c :: behind))
    (ends : c = ',' ∨ c = ']') :
    items? (bound + 2) depth chars =
      if c = ',' then (items? (bound + 1) depth behind).map fun items =>
        (.text text :: items.1, items.2)
      else some ([.text text], behind) := by
  have visible : isVisible c = true := by rcases ends with rfl | rfl <;> decide
  have double : (c :: behind).head? ≠ some '"' := by rcases ends with rfl | rfl <;> simp
  have single : (c :: behind).head? ≠ some '\'' := by rcases ends with rfl | rfl <;> simp
  have read := value?_textChars bound depth text double single
  have skips' := skipLines?_visible visible (c :: behind).length behind
  rcases textChars_head text.toList with ⟨quote, rest, shown, quotes⟩
  have inside : quote ≠ ']' := by rcases quotes with rfl | rfl <;> decide
  rw [shown, List.cons_append] at skips read
  rw [items?, skips]
  simp only [Option.bind_eq_bind, Option.bind_some]
  split
  next same =>
    cases same
    exact absurd rfl inside
  next =>
    rw [read]
    simp only [Option.bind_some, skips']
    rcases ends with rfl | rfl
    · rw [if_pos rfl, Option.map_eq_bind]
      rfl
    · rfl

/-- Items with a line for each. -/
def itemLines (texts : List String) : List Char :=
  texts.flatMap fun text => [' ', ' ', ' ', ' '] ++ textChars text.toList ++ [',', '\n']

theorem items?_itemLines (depth : Nat) {texts : List String} {bound : Nat}
    (enough : texts.length < bound) (behind : List Char) :
    items? bound depth ('\n' :: (itemLines texts ++ ']' :: behind)) =
      some (texts.map .text, behind) := by
  induction texts generalizing bound with
  | nil =>
      match bound, enough with
      | bound + 1, _ =>
          have empty : ([] : List Char).all isSpace = true := rfl
          have closed : isVisible ']' = true := by decide
          exact items?_close bound depth (skipLines?_line closed empty behind (by simp))
  | cons text texts ih =>
      match bound, enough with
      | bound + 2, enough =>
          have indent : [' ', ' ', ' ', ' '].all isSpace = true := by decide
          have whole : '\n' :: (itemLines (text :: texts) ++ ']' :: behind) =
              '\n' :: ([' ', ' ', ' ', ' '] ++ (textChars text.toList ++
                ',' :: '\n' :: (itemLines texts ++ ']' :: behind))) := by
            simp [itemLines]
          have skips : skipLines? (('\n' :: (itemLines (text :: texts) ++ ']' :: behind)).length + 1)
              ('\n' :: (itemLines (text :: texts) ++ ']' :: behind)) =
                some (textChars text.toList ++ ',' :: '\n' :: (itemLines texts ++ ']' :: behind)) := by
            rcases textChars_head text.toList with ⟨quote, rest, shown, quotes⟩
            rw [whole, shown]
            exact skipLines?_line (isVisible_of_quote quotes) indent _ (by simp)
          rw [items?_text bound depth text skips (Or.inl rfl), if_pos rfl,
            ih (Nat.lt_of_succ_lt_succ enough)]
          rfl

theorem toList_join_empty (parts : List String) :
    (Text.join "" parts).toList = parts.flatMap String.toList := by
  induction parts with
  | nil => rfl
  | cons part parts ih =>
      cases parts with
      | nil => simp [Text.join]
      | cons next parts => simp [Text.join, ih]

theorem value?_array {bound depth : Nat} (shallow : depth + 1 < nestingLimit) {chars : List Char}
    {items : List Node} {behind : List Char}
    (read : items? bound (depth + 1) chars = some (items, behind)) :
    value? (bound + 1) depth ('[' :: chars) = some (.array items, behind) := by
  have bracket : ¬ ('[' = '"' ∨ '[' = '\'') := by decide
  rw [value?]
  simp only [if_neg bracket, if_true, if_pos shallow, read]
  rfl

/-- How lists with several texts are written. -/
theorem toList_writeTexts (first second : String) (texts : List String) :
    (writeTexts (first :: second :: texts)).toList =
      '[' :: '\n' :: (itemLines (first :: second :: texts) ++ [']']) := by
  simp [writeTexts, writeText, toList_join_empty, itemLines, List.flatMap_map]

/-- A list of texts is read back. -/
theorem value?_writeTexts {bound depth : Nat} (shallow : depth + 1 < nestingLimit)
    {texts : List String} (enough : texts.length + 2 ≤ bound) (behind : List Char) :
    value? bound depth ((writeTexts texts).toList ++ behind) =
      some (.array (texts.map .text), behind) := by
  cases texts with
  | nil =>
      match bound, enough with
      | bound + 2, _ =>
          have closed : isVisible ']' = true := by decide
          have skips := skipLines?_visible closed (']' :: behind).length behind
          exact value?_array shallow (items?_close bound (depth + 1) skips)
  | cons first texts =>
      match bound, enough with
      | bound + 3, enough =>
          cases texts with
          | nil =>
              have whole : (writeTexts [first]).toList ++ behind =
                  '[' :: (textChars first.toList ++ ']' :: behind) := by
                simp [writeTexts, writeText]
              have skips : skipLines? ((textChars first.toList ++ ']' :: behind).length + 1)
                  (textChars first.toList ++ ']' :: behind) =
                    some (textChars first.toList ++ ']' :: behind) := by
                rcases textChars_head first.toList with ⟨quote, rest, shown, quotes⟩
                rw [shown]
                exact skipLines?_visible (isVisible_of_quote quotes) _ _
              rw [whole]
              apply value?_array shallow
              rw [items?_text bound (depth + 1) first skips (Or.inr rfl)]
              rfl
          | cons second texts =>
              have whole : (writeTexts (first :: second :: texts)).toList ++ behind =
                  '[' :: '\n' :: (itemLines (first :: second :: texts) ++ ']' :: behind) := by
                simp [toList_writeTexts]
              rw [whole]
              apply value?_array shallow
              apply items?_itemLines
              simp only [List.length_cons] at enough ⊢
              omega

/-- The characters are read as this value when they end a line, within as many steps
as they are. -/
structure ReadsAs (value : List Char) (node : Node) : Prop where
  starts : Exists fun c => Exists fun rest => value = c :: rest ∧ isSpace c = false
  reads : forall {bound : Nat} (behind : List Char), value.length ≤ bound ->
    value? bound 0 (value ++ '\n' :: behind) = some (node, '\n' :: behind)

theorem readsAs_text (text : String) : ReadsAs (textChars text.toList) (.text text) := by
  rcases textChars_head text.toList with ⟨quote, rest, shown, quotes⟩
  refine ⟨⟨quote, rest, shown, (isVisible_iff.mp (isVisible_of_quote quotes)).1⟩, ?_⟩
  intro bound behind enough
  rw [shown, List.length_cons] at enough
  match bound, enough with
  | bound + 1, _ => exact value?_textChars bound 0 text (by simp) (by simp)

theorem length_le_itemLines (texts : List String) : texts.length ≤ (itemLines texts).length := by
  induction texts with
  | nil => exact Nat.le_refl 0
  | cons text texts ih =>
      have step : (itemLines (text :: texts)).length =
          6 + (textChars text.toList).length + (itemLines texts).length := by
        simp [itemLines]
        omega
      rw [step, List.length_cons]
      omega

theorem readsAs_texts (texts : List String) :
    ReadsAs (writeTexts texts).toList (.array (texts.map .text)) := by
  have size : texts.length + 2 ≤ (writeTexts texts).toList.length := by
    match texts with
    | [] => simp [writeTexts]
    | [text] =>
        rcases textChars_head text.toList with ⟨quote, rest, shown, _⟩
        simp [writeTexts, writeText, shown]
    | first :: second :: texts =>
        have lines := length_le_itemLines (first :: second :: texts)
        rw [toList_writeTexts]
        simp only [List.length_cons, List.length_append, List.length_nil] at lines ⊢
        omega
  refine ⟨?_, fun behind enough => ?_⟩
  · have bracket : isSpace '[' = false := by decide
    match texts with
    | [] => exact ⟨'[', [']'], rfl, bracket⟩
    | [text] =>
        exact ⟨'[', textChars text.toList ++ [']'], by simp [writeTexts, writeText], bracket⟩
    | first :: second :: texts => exact ⟨'[', _, toList_writeTexts first second texts, bracket⟩
  · have shallow : 0 + 1 < nestingLimit := by decide
    exact value?_writeTexts shallow (Nat.le_trans size enough) ('\n' :: behind)

/-! ## Keys -/

/-- Keys that are written without quotes. -/
def isBareKey (key : String) : Bool :=
  !key.toList.isEmpty && key.toList.all isBareKeyChar

theorem ne_of_isBareKeyChar {c other : Char} (bare : isBareKeyChar c = true)
    (special : isBareKeyChar other = false) : c ≠ other := by
  rintro rfl
  rw [bare] at special
  cases special

theorem isSpace_of_isBareKeyChar {c : Char} (bare : isBareKeyChar c = true) :
    isSpace c = false := by
  have space := ne_of_isBareKeyChar bare (show isBareKeyChar ' ' = false by decide)
  have tab := ne_of_isBareKeyChar bare (show isBareKeyChar '\t' = false by decide)
  simp [isSpace, space, tab]

theorem isBareKey_cons {key : String} (bare : isBareKey key = true) :
    Exists fun c => Exists fun rest => key.toList = c :: rest ∧ isBareKeyChar c = true := by
  simp only [isBareKey, Bool.and_eq_true] at bare
  cases shown : key.toList with
  | nil => simp [shown] at bare
  | cons c rest =>
      rw [shown] at bare
      exact ⟨c, rest, rfl, List.all_eq_true.mp bare.2 c List.mem_cons_self⟩

theorem keyPart?_bare {key : String} (bare : isBareKey key = true) {behind : List Char}
    (ends : forall c, behind.head? = some c -> isBareKeyChar c = false) :
    keyPart? (key.toList ++ behind) = some (key, behind) := by
  rcases isBareKey_cons bare with ⟨c, rest, shown, first⟩
  simp only [isBareKey, Bool.and_eq_true] at bare
  have letters := List.all_eq_true.mp bare.2
  have stops : behind.takeWhile isBareKeyChar = [] ∧ behind.dropWhile isBareKeyChar = behind := by
    cases behind with
    | nil => exact ⟨rfl, rfl⟩
    | cons d behind => simp [ends d rfl]
  have double := ne_of_isBareKeyChar first (show isBareKeyChar '"' = false by decide)
  have single := ne_of_isBareKeyChar first (show isBareKeyChar '\'' = false by decide)
  unfold keyPart?
  split
  next same =>
    rw [shown] at same
    cases same
    exact absurd rfl double
  next same =>
    rw [shown] at same
    cases same
    exact absurd rfl single
  next =>
    rw [List.takeWhile_append_of_pos letters, List.dropWhile_append_of_pos letters, stops.1,
      stops.2, List.append_nil]
    have nonempty : key.toList.isEmpty = false := by
      rw [shown]
      rfl
    simp [nonempty]

/-- A bare key ends at a character that does not belong to a key, blanks before it
left aside. -/
theorem keyPath?_bare {key : String} (bare : isBareKey key = true) {spaces : List Char}
    (blank : spaces.all isSpace = true) {c : Char} (ends : isBareKeyChar c = false)
    (visible : isSpace c = false) (undotted : c ≠ '.') (rest : List Char) :
    keyPath? (key.toList ++ (spaces ++ c :: rest)) = some (⟨[], key⟩, c :: rest) := by
  have stops : forall d, (spaces ++ c :: rest).head? = some d -> isBareKeyChar d = false := by
    intro d first
    cases spaces with
    | nil =>
        cases first
        exact ends
    | cons space spaces =>
        cases first
        apply Bool.eq_false_iff.mpr
        intro letter
        have impossible := isSpace_of_isBareKeyChar letter
        rw [List.all_eq_true.mp blank d List.mem_cons_self] at impossible
        cases impossible
  have starts : dropSpaces (key.toList ++ (spaces ++ c :: rest)) =
      key.toList ++ (spaces ++ c :: rest) := by
    rcases isBareKey_cons bare with ⟨first, letters, shown, letter⟩
    rw [shown]
    exact dropSpaces_of_head (isSpace_of_isBareKeyChar letter) _
  have behind : dropSpaces (spaces ++ c :: rest) = c :: rest := by
    rw [dropSpaces_append blank, dropSpaces_of_head visible]
  have part := keyPart?_bare bare stops
  have parts : forall bound, keyParts? (bound + 1) (key.toList ++ (spaces ++ c :: rest)) =
      some ([key], c :: rest) := by
    intro bound
    rw [keyParts?, starts, part]
    simp only [Option.bind_eq_bind, Option.bind_some, behind]
    split
    next same =>
      cases same
      exact absurd rfl undotted
    next => rfl
  rw [keyPath?, parts]
  rfl

/-! ## Lines -/

/-- A line that assigns a value to a bare key. -/
structure Line where
  key : String
  value : List Char
  node : Node
  bare : isBareKey key = true
  reads : ReadsAs value node

namespace Line

def ofText (key : String) (text : String) (bare : isBareKey key = true) : Line :=
  ⟨key, textChars text.toList, .text text, bare, readsAs_text text⟩

def ofTexts (key : String) (texts : List String) (bare : isBareKey key = true) : Line :=
  ⟨key, (writeTexts texts).toList, .array (texts.map .text), bare, readsAs_texts texts⟩

def chars (line : Line) : List Char :=
  line.key.toList ++ ' ' :: '=' :: ' ' :: (line.value ++ ['\n'])

def assignment (line : Line) : Assignment :=
  ⟨⟨[], line.key⟩, line.node⟩

def entry (line : Line) : String × Node :=
  (line.key, line.node)

theorem assignment?_chars (line : Line) (behind : List Char) :
    assignment? (line.chars ++ behind) = some (line.assignment, '\n' :: behind) := by
  have whole : line.chars ++ behind = line.key.toList ++
      ([' '] ++ '=' :: ' ' :: (line.value ++ '\n' :: behind)) := by
    simp [chars]
  have blank : [' '].all isSpace = true := by decide
  have path := keyPath?_bare line.bare blank (show isBareKeyChar '=' = false by decide) (by decide)
    (by decide) (' ' :: (line.value ++ '\n' :: behind))
  have value : dropSpaces (' ' :: (line.value ++ '\n' :: behind)) =
      line.value ++ '\n' :: behind := by
    rcases line.reads.starts with ⟨c, rest, shown, visible⟩
    rw [shown]
    exact (dropSpaces_append blank _).trans (dropSpaces_of_head visible _)
  have read := line.reads.reads behind
    (show line.value.length ≤ 2 * (' ' :: (line.value ++ '\n' :: behind)).length + 2 by
      simp only [List.length_cons, List.length_append]
      omega)
  rw [whole, assignment?, path]
  simp only [Option.bind_eq_bind, Option.bind_some, value, read]
  rfl

theorem outline?_chars (line : Line) (bound : Nat) (behind : List Char) :
    outline? (bound + 1) (line.chars ++ behind) = (outline? bound behind).map fun following =>
      ⟨line.assignment :: following.assignments, following.sections⟩ := by
  rcases isBareKey_cons line.bare with ⟨c, rest, shown, letter⟩
  have whole : Exists fun more => line.chars ++ behind = c :: more :=
    ⟨_, by rw [chars, shown]; rfl⟩
  rcases whole with ⟨more, whole⟩
  have read := line.assignment?_chars behind
  have comment := ne_of_isBareKeyChar letter (show isBareKeyChar '#' = false by decide)
  have breaks := ne_of_isBareKeyChar letter (show isBareKeyChar '\n' = false by decide)
  have carriage := ne_of_isBareKeyChar letter (show isBareKeyChar '\r' = false by decide)
  have bracket := ne_of_isBareKeyChar letter (show isBareKeyChar '[' = false by decide)
  rw [whole] at read ⊢
  rw [outline?, dropSpaces_of_head (isSpace_of_isBareKeyChar letter)]
  simp only [comment, isBreakBefore, breaks, carriage, bracket, decide_false, Bool.false_and,
    Bool.or_false, Bool.false_eq_true, or_false, if_false, read, Option.bind_eq_bind,
    Option.bind_some, endLine?_break]
  rw [Option.map_eq_bind]
  rfl

theorem outline?_lines (lines : List Line) (bound : Nat) (behind : List Char) :
    outline? (lines.length + bound) (lines.flatMap chars ++ behind) =
      (outline? bound behind).map fun following =>
        ⟨lines.map assignment ++ following.assignments, following.sections⟩ := by
  induction lines with
  | nil => simp
  | cons line lines ih =>
      rw [List.flatMap_cons, List.append_assoc, List.length_cons, Nat.add_right_comm,
        outline?_chars, ih, Option.map_map]
      rfl

theorem length_le_chars (lines : List Line) : lines.length ≤ (lines.flatMap chars).length := by
  induction lines with
  | nil => exact Nat.le_refl 0
  | cons line lines ih =>
      rw [List.flatMap_cons, List.length_append, List.length_cons]
      have positive : 0 < line.chars.length := by
        simp only [chars, List.length_append, List.length_cons]
        omega
      omega

end Line

theorem outline?_break (bound : Nat) (behind : List Char) :
    outline? (bound + 1) ('\n' :: behind) = outline? bound behind := by
  have first : dropSpaces ('\n' :: behind) = '\n' :: behind := dropSpaces_of_head (by decide) behind
  rw [outline?, first]
  simp [isBreakBefore, endLine?_break]

theorem outline?_header {key : String} (bare : isBareKey key = true) (bound : Nat)
    (behind : List Char) :
    outline? (bound + 1) ('[' :: (key.toList ++ ']' :: '\n' :: behind)) =
      (outline? bound behind).map fun following =>
        ⟨[], ⟨false, ⟨[], key⟩, following.assignments⟩ :: following.sections⟩ := by
  have empty : ([] : List Char).all isSpace = true := rfl
  have path := keyPath?_bare bare empty (show isBareKeyChar ']' = false by decide) (by decide)
    (by decide) ('\n' :: behind)
  rw [List.nil_append] at path
  have header : header? ('[' :: (key.toList ++ ']' :: '\n' :: behind)) =
      some (false, ⟨[], key⟩, '\n' :: behind) := by
    rcases isBareKey_cons bare with ⟨c, rest, shown, letter⟩
    have bracket := ne_of_isBareKeyChar letter (show isBareKeyChar '[' = false by decide)
    unfold header?
    split
    next same =>
      rw [shown] at same
      cases same
      exact absurd rfl bracket
    next same =>
      cases same
      rw [path]
      rfl
    next other => exact absurd rfl (other _)
  have visible : ¬ ('[' = '#' ∨
      isBreakBefore '[' (key.toList ++ ']' :: '\n' :: behind) = true) := by
    simp [isBreakBefore]
  rw [outline?, dropSpaces_of_head (by decide)]
  simp only [if_neg visible, if_true, header, Option.bind_eq_bind, Option.bind_some,
    endLine?_break]
  rw [Option.map_eq_bind]
  rfl

/-! ## Entries -/

namespace Entries

theorem find?_eq_none {entries : Entries} {name : String} (fresh : name ∉ entries.map Prod.fst) :
    entries.find? name = none := by
  rw [find?, Option.map_eq_none_iff, List.find?_eq_none]
  intro entry member same
  exact fresh (List.mem_map.mpr ⟨entry, member, of_decide_eq_true same⟩)

theorem add?_of_fresh {entries : Entries} {name : String} (fresh : name ∉ entries.map Prod.fst)
    (node : Node) : entries.add? name node = some (entries ++ [(name, node)]) := by
  rw [add?, find?_eq_none fresh]
  rfl

theorem put_of_fresh {entries : Entries} {name : String} (fresh : name ∉ entries.map Prod.fst)
    (node : Node) : entries.put name node = entries ++ [(name, node)] := by
  induction entries with
  | nil => rfl
  | cons entry entries ih =>
      rw [List.map_cons, List.mem_cons, not_or] at fresh
      rw [put, if_neg (Ne.symm fresh.1), ih fresh.2]
      rfl

end Entries

/-- Lines with different keys are the entries of their table. -/
theorem assignAll?_lines {lines : List Line} {entries : Entries}
    (distinct : (entries.map Prod.fst ++ lines.map Line.key).Nodup) :
    assignAll? (lines.map Line.assignment) entries = some (entries ++ lines.map Line.entry) := by
  induction lines generalizing entries with
  | nil => simp [assignAll?]
  | cons line lines ih =>
      have fresh : line.key ∉ entries.map Prod.fst := fun member =>
        (List.nodup_append.mp distinct).2.2 line.key member line.key List.mem_cons_self rfl
      have later : ((entries ++ [line.entry]).map Prod.fst ++ lines.map Line.key).Nodup := by
        simpa [Line.entry] using distinct
      have first : assign? line.key line.node true [] entries =
          some (entries ++ [line.entry]) :=
        Entries.add?_of_fresh fresh line.node
      have rest := ih later
      unfold assignAll? at rest ⊢
      rw [List.map_cons, List.foldlM_cons]
      simp only [Line.assignment] at first rest ⊢
      rw [first]
      simp only [Option.bind_eq_bind, Option.bind_some]
      rw [rest, List.append_assoc]
      rfl

/-- A document of lines, and of a section with further lines. -/
def documentChars (top : List Line) (key : String) (lines : List Line) : List Char :=
  top.flatMap Line.chars ++
    '\n' :: '[' :: (key.toList ++ ']' :: '\n' :: lines.flatMap Line.chars)

theorem outline?_document (top : List Line) {key : String} (bare : isBareKey key = true)
    (lines : List Line) {bound : Nat} (enough : (documentChars top key lines).length < bound) :
    outline? bound (documentChars top key lines) =
      some ⟨top.map Line.assignment, [⟨false, ⟨[], key⟩, lines.map Line.assignment⟩]⟩ := by
  have outer := Line.length_le_chars top
  have inner := Line.length_le_chars lines
  -- A step for every line, for the blank line, for the header, and one for the end.
  have split : Exists fun more => bound = top.length + (lines.length + (more + 1) + 1 + 1) := by
    simp only [documentChars, List.length_append, List.length_cons] at enough
    exact ⟨bound - top.length - lines.length - 3, by omega⟩
  rcases split with ⟨more, rfl⟩
  have last : outline? (more + 1) [] = some ⟨[], []⟩ := rfl
  have inside := Line.outline?_lines lines (more + 1) []
  rw [List.append_nil, last] at inside
  rw [documentChars, Line.outline?_lines, outline?_break, outline?_header bare, inside]
  simp

theorem dropByteOrderMark_document (top : List Line) (key : String) (lines : List Line) :
    dropByteOrderMark (documentChars top key lines) = documentChars top key lines := by
  have starts : Exists fun c => Exists fun rest =>
      documentChars top key lines = c :: rest ∧ c ≠ '\ufeff' := by
    cases top with
    | nil => exact ⟨'\n', _, rfl, by decide⟩
    | cons line top =>
        rcases isBareKey_cons line.bare with ⟨c, rest, shown, letter⟩
        exact ⟨c, _, by rw [documentChars, List.flatMap_cons, Line.chars, shown]; rfl,
          ne_of_isBareKeyChar letter (by decide)⟩
  rcases starts with ⟨c, rest, shown, other⟩
  rw [shown]
  unfold dropByteOrderMark
  split
  next same =>
    cases same
    exact absurd rfl other
  next => rfl

/-- A document is read as the table of its lines. -/
theorem read?_document {text : String} {top lines : List Line} {key : String}
    (written : text.toList = documentChars top key lines) (bare : isBareKey key = true)
    (outer : (top.map Line.key ++ [key]).Nodup) (inner : (lines.map Line.key).Nodup) :
    read? text =
      some (top.map Line.entry ++ [(key, .table .header (lines.map Line.entry))]) := by
  have keys := List.nodup_append.mp outer
  have assigned : assignAll? (top.map Line.assignment) [] = some (top.map Line.entry) :=
    assignAll?_lines keys.1
  have assigned' : assignAll? (lines.map Line.assignment) [] = some (lines.map Line.entry) :=
    assignAll?_lines inner
  have fresh : key ∉ (top.map Line.entry).map Prod.fst := by
    rw [List.map_map]
    exact fun member => keys.2.2 key member key List.mem_cons_self rfl
  have placed : Section.place? ⟨false, ⟨[], key⟩, lines.map Line.assignment⟩ (top.map Line.entry) =
      some (top.map Line.entry ++ [(key, .table .header (lines.map Line.entry))]) := by
    change Section.fill? _ _ = _
    rw [Section.fill?]
    simp only [Entries.find?_eq_none fresh, assigned', Entries.put_of_fresh fresh]
    rfl
  rw [read?, written, dropByteOrderMark_document,
    outline?_document top bare lines (Nat.lt_succ_self _)]
  simp only [Option.bind_eq_bind, Option.bind_some, Outline.entries?, assigned, List.foldlM_cons,
    placed, List.foldlM_nil]
  rfl

end Toml
end CorpusQuery
