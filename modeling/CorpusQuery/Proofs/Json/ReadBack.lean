import Mathlib.Data.List.DropRight
import CorpusQuery.Proofs.Json.Layout
import CorpusQuery.Proofs.Text.Quoted

namespace CorpusQuery
namespace Json

/-!
# Written values are read back

A value written in any layout is read as the document that it stands for, and what
stands behind it is left.  All statements carry what stands behind, because the end
of a number shows only there: no digit, point or exponent may follow it.  Nothing but
a blank, a comma or a closing mark is ever written behind a value.

The reader is bounded by the number of characters.  Lists and records spend one
step on each member, which is paid by the mark in front of it.
-/

/-! ## Documents of values -/

namespace Value

mutual

/-- What a value stands for. -/
def document : Value -> Document
  | .natural n => .number n 0
  | .text content => .text content
  | .list items => .list (documents items)
  | .record fields => .record (documentFields fields)

def documents : List Value -> List Document
  | [] => []
  | item :: rest => item.document :: documents rest

def documentFields : List (String × Value) -> List (String × Document)
  | [] => []
  | (name, value) :: rest => (name, value.document) :: documentFields rest

end

theorem documents_eq_map (items : List Value) : documents items = items.map document := by
  induction items with
  | nil => rfl
  | cons item rest ih => rw [documents, ih, List.map_cons]

end Value

open Text.Quoted

namespace Reader

/-! ## Blanks -/

theorem dropSpaces_cons {c : Char} (visible : isSpace c = false) (rest : List Char) :
    dropSpaces (c :: rest) = c :: rest :=
  List.dropWhile_cons_of_neg (Bool.eq_false_iff.mp visible)

theorem dropSpaces_gap {gap : List Char} (blank : gap.all isSpace = true) {c : Char}
    (visible : isSpace c = false) (rest : List Char) :
    dropSpaces (gap ++ c :: rest) = c :: rest := by
  rw [dropSpaces, List.dropWhile_append_of_pos (List.all_eq_true.mp blank)]
  exact dropSpaces_cons visible rest

theorem items?_dropSpaces (bound : Nat) (chars : List Char) :
    items? bound (dropSpaces chars) = items? bound chars := by
  cases bound with
  | zero => simp only [items?]
  | succ bound => rw [items?, items?, dropSpaces, dropSpaces, List.dropWhile_idempotent]

theorem fields?_dropSpaces (bound : Nat) (chars : List Char) :
    fields? bound (dropSpaces chars) = fields? bound chars := by
  cases bound with
  | zero => simp only [fields?]
  | succ bound => rw [fields?, fields?, dropSpaces, dropSpaces, List.dropWhile_idempotent]

/-! ## Texts -/

theorem readsNumbers_escape? : ReadsNumbers escape? := by
  intro rest number read small
  simp [escape?, numbered?, read, small]

/-- A character stands for itself between quotes, or a backslash and a code stand for
it. -/
theorem shows_escapedChar (c : Char) :
    Shows escape? (fun c => 0x20 ≤ c.toNat) (escapedChar c) c := by
  by_cases short : c ∈ ['"', '\\', '\x08', '\x0c', '\n', '\r', '\t']
  · right
    simp only [List.mem_cons, List.not_mem_nil, or_false] at short
    rcases short with rfl | rfl | rfl | rfl | rfl | rfl | rfl
    · exact ⟨['"'], rfl, fun rest => rfl⟩
    · exact ⟨['\\'], rfl, fun rest => rfl⟩
    · exact ⟨['b'], rfl, fun rest => rfl⟩
    · exact ⟨['f'], rfl, fun rest => rfl⟩
    · exact ⟨['n'], rfl, fun rest => rfl⟩
    · exact ⟨['r'], rfl, fun rest => rfl⟩
    · exact ⟨['t'], rfl, fun rest => rfl⟩
  · simp only [List.mem_cons, List.not_mem_nil, or_false, not_or] at short
    rcases short with ⟨quote, backslash, back, feed, line, carriage, tab⟩
    simp only [escapedChar, quote, backslash, back, feed, line, carriage, tab, or_self, if_false]
    by_cases control : c.toNat < 0x20
    · have length := Text.length_hexDigits (Nat.lt_trans control (by decide))
      rw [if_pos control]
      exact Or.inr ⟨_, rfl, encodes_digits readsNumbers_escape? length
        (Text.hexNumber?_hexDigits 4 c.toNat) (by omega)⟩
    · rw [if_neg control]
      exact Or.inl ⟨rfl, quote, backslash, decide_eq_true (Nat.le_of_not_lt control)⟩

theorem content?_escaped (content behind : List Char) :
    content? (content.flatMap escapedChar ++ '"' :: behind) = some (content, behind) :=
  content?_flatMap (fun c _ => shows_escapedChar c) behind

theorem toList_quoted_append (content : String) (behind : List Char) :
    (quoted content).toList ++ behind =
      '"' :: (content.toList.flatMap escapedChar ++ '"' :: behind) := by
  simp [quoted]

/-! ## Numbers -/

def isNumberChar (c : Char) : Bool :=
  Text.isDigit c || c = '.' || c = 'e' || c = 'E'

/-- What follows does not continue a number. -/
def EndsNumber (behind : List Char) : Prop :=
  forall c, c ∈ behind.head? -> isNumberChar c = false

theorem EndsNumber.cases {behind : List Char} (ends : EndsNumber behind) :
    behind = [] ∨ Exists fun c => Exists fun rest => behind = c :: rest ∧
      Text.isDigit c = false ∧ c ≠ '.' ∧ c ≠ 'e' ∧ c ≠ 'E' := by
  cases behind with
  | nil => exact Or.inl rfl
  | cons c rest =>
      have other := ends c rfl
      simp only [isNumberChar, Bool.or_eq_false_iff, decide_eq_false_iff_not] at other
      rcases other with ⟨⟨⟨digit, point⟩, small⟩, capital⟩
      exact Or.inr ⟨c, rest, rfl, digit, point, small, capital⟩

theorem isNumberChar_of_isSpace {c : Char} (space : isSpace c = true) :
    isNumberChar c = false := by
  simp only [isSpace, Bool.or_eq_true, decide_eq_true_eq] at space
  rcases space with ((rfl | rfl) | rfl) | rfl <;> decide

theorem endsNumber_cons {c : Char} (ends : isNumberChar c = false) (rest : List Char) :
    EndsNumber (c :: rest) := by
  rintro first same
  cases same
  exact ends

theorem endsNumber_gap {gap : List Char} (blank : gap.all isSpace = true) {c : Char}
    (ends : isNumberChar c = false) (rest : List Char) : EndsNumber (gap ++ c :: rest) := by
  cases gap with
  | nil => exact endsNumber_cons ends rest
  | cons space gap =>
      rw [List.all_cons, Bool.and_eq_true] at blank
      exact endsNumber_cons (isNumberChar_of_isSpace blank.1) (gap ++ c :: rest)

/-- No digit is written in front of a number that it does not need. -/
theorem head?_toDigits {n : Nat} (positive : 0 < n) : (Nat.toDigits 10 n).head? ≠ some '0' := by
  induction n using Nat.strongRecOn with
  | ind n ih =>
      by_cases small : n < 10
      · rw [Nat.toDigits_of_lt_base small]
        have all : forall digit : Fin 10, 0 < digit.val -> digit.val.digitChar ≠ '0' := by decide
        exact fun same => all ⟨n, small⟩ positive (Option.some.inj same)
      · have large : 10 ≤ n := Nat.le_of_not_lt small
        have front : 0 < n / 10 := Nat.div_pos large (by decide)
        rw [Nat.toDigits_of_base_le (by decide) large,
          List.head?_append_of_ne_nil _ Nat.toDigits_ne_nil]
        exact ih (n / 10) (Nat.div_lt_self positive (by decide)) front

theorem digits?_repr (n : Nat) {behind : List Char} (ends : EndsNumber behind) :
    digits? ((Nat.repr n).toList ++ behind) = some ((Nat.repr n).toList, behind) := by
  have digits : forall c, c ∈ (Nat.repr n).toList -> Text.isDigit c = true :=
    fun _ member => Store.isDigit_of_mem_repr member
  have stops : behind.takeWhile Text.isDigit = [] ∧ behind.dropWhile Text.isDigit = behind := by
    rcases ends.cases with rfl | ⟨c, rest, rfl, digit, _⟩
    · exact ⟨rfl, rfl⟩
    · simp [digit]
  rcases Store.repr_cons n with ⟨c, rest, chars, _⟩
  rw [digits?, List.takeWhile_append_of_pos digits, List.dropWhile_append_of_pos digits, stops.1,
    stops.2, List.append_nil, chars]
  rfl

theorem whole?_repr (n : Nat) {behind : List Char} (ends : EndsNumber behind) :
    whole? ((Nat.repr n).toList ++ behind) = some ((Nat.repr n).toList, behind) := by
  have leading : ¬ ((Nat.repr n).toList.head? = some '0' ∧ (Nat.repr n).toList ≠ ['0']) := by
    rintro ⟨zero, more⟩
    rw [Nat.toList_repr] at zero more
    cases n with
    | zero => exact more (Nat.toDigits_zero 10)
    | succ n => exact head?_toDigits (Nat.succ_pos n) zero
  simp only [whole?, digits?_repr n ends, Option.bind_eq_bind, Option.bind_some, if_neg leading]
  rfl

theorem unsigned?_repr (n : Nat) {behind : List Char} (ends : EndsNumber behind) :
    unsigned? ((Nat.repr n).toList ++ behind) = some ((n, 0), behind) := by
  have fraction : fraction? behind = some ([], behind) := by
    rcases ends.cases with rfl | ⟨c, rest, rfl, _, point, _⟩
    · rfl
    · simp [fraction?, point]
  have exponent : exponent? behind = some (0, behind) := by
    rcases ends.cases with rfl | ⟨c, rest, rfl, _, _, small, capital⟩
    · rfl
    · simp [exponent?, small, capital]
  have value : Nat.ofDigitChars 10 (Nat.repr n).toList 0 = n := by
    rw [Nat.toList_repr, Nat.ofDigitChars_ten_toDigits]
  simp only [unsigned?, whole?_repr n ends, Option.bind_eq_bind, Option.bind_some, fraction,
    exponent, List.append_nil, value]
  rfl

theorem plain?_repr (n : Nat) {behind : List Char} (ends : EndsNumber behind) :
    plain? ((Nat.repr n).toList ++ behind) = some (.number n 0, behind) := by
  have read := unsigned?_repr n ends
  rcases Store.repr_cons n with ⟨c, rest, chars, digit⟩
  rw [chars, List.cons_append] at read ⊢
  have apart : forall other, Text.isDigit other = false -> c ≠ other :=
    fun _ => Store.ne_of_isDigit digit
  have null := beq_false_of_ne (apart 'n' (by decide)).symm
  have yes := beq_false_of_ne (apart 't' (by decide)).symm
  have no := beq_false_of_ne (apart 'f' (by decide)).symm
  rw [plain?, List.isPrefixOf, List.isPrefixOf, List.isPrefixOf, null, yes, no, number?,
    if_neg (apart '-' (by decide)), read]
  rfl

/-! ## Values -/

/-- How a written value starts: visibly, and not like the end of a list. -/
theorem laid_cons (layout : Layout) (level : Nat) (value : Value) :
    Exists fun c => Exists fun rest => value.laid layout level = c :: rest ∧
      isSpace c = false ∧ c ≠ ']' := by
  cases value with
  | natural n =>
      rcases Store.repr_cons n with ⟨c, rest, chars, digit⟩
      refine ⟨c, rest, by rw [Value.laid, chars], ?_, Store.ne_of_isDigit digit (by decide)⟩
      apply Bool.eq_false_iff.mpr
      intro space
      have other := isNumberChar_of_isSpace space
      rw [isNumberChar, digit] at other
      cases other
  | text content =>
      refine ⟨'"', content.toList.flatMap escapedChar ++ ['"'], ?_, by decide, by decide⟩
      rw [Value.laid, quoted, String.toList_ofList, List.cons_append]
  | list items =>
      cases items with
      | nil => exact ⟨'[', _, by rw [Value.laid], by decide, by decide⟩
      | cons item rest => exact ⟨'[', _, by rw [Value.laid], by decide, by decide⟩
  | record fields =>
      cases fields with
      | nil => exact ⟨'\x7b', _, by rw [Value.laid], by decide, by decide⟩
      | cons field rest => exact ⟨'\x7b', _, by rw [Value.laid], by decide, by decide⟩

theorem exists_bound {layout : Layout} {level : Nat} {value : Value} {bound : Nat}
    (enough : (value.laid layout level).length ≤ bound) :
    Exists fun less => bound = less + 1 := by
  rcases laid_cons layout level value with ⟨c, rest, shown, _⟩
  rw [shown, List.length_cons] at enough
  exact ⟨bound - 1, by omega⟩

/-- A gap is passed in front of a value. -/
theorem dropSpaces_laid {gap : List Char} (blank : gap.all isSpace = true) (layout : Layout)
    (level : Nat) (value : Value) (behind : List Char) :
    dropSpaces (gap ++ (value.laid layout level ++ behind)) =
      value.laid layout level ++ behind := by
  rcases laid_cons layout level value with ⟨c, rest, shown, visible, _⟩
  rw [shown, List.cons_append]
  exact dropSpaces_gap blank visible (rest ++ behind)

theorem value?_quoted (bound : Nat) (content : String) (behind : List Char) :
    value? (bound + 1) ((quoted content).toList ++ behind) = some (.text content, behind) := by
  rw [toList_quoted_append]
  simp [value?, content?_escaped]

theorem value?_natural (bound n : Nat) {behind : List Char} (ends : EndsNumber behind) :
    value? (bound + 1) ((Nat.repr n).toList ++ behind) = some (.number n 0, behind) := by
  have read := plain?_repr n ends
  rcases Store.repr_cons n with ⟨c, rest, chars, digit⟩
  rw [chars, List.cons_append] at read ⊢
  have apart : forall other, Text.isDigit other = false -> c ≠ other :=
    fun _ => Store.ne_of_isDigit digit
  rw [value?, if_neg (apart '"' (by decide)), if_neg (apart '[' (by decide)),
    if_neg (apart '\x7b' (by decide)), read]

/-- A list that does not close at once is read by its items. -/
theorem value?_items {bound : Nat} {chars rest behind : List Char} {first : Char}
    {items : List Document} (starts : dropSpaces chars = first :: rest) (goesOn : first ≠ ']')
    (read : items? bound chars = some (items, behind)) :
    value? (bound + 1) ('[' :: chars) = some (.list items, behind) := by
  rw [<- items?_dropSpaces, starts] at read
  simp [value?, starts, goesOn, read]

theorem value?_fields {bound : Nat} {chars rest behind : List Char} {first : Char}
    {fields : List (String × Document)} (starts : dropSpaces chars = first :: rest)
    (goesOn : first ≠ '\x7d') (read : fields? bound chars = some (fields, behind)) :
    value? (bound + 1) ('\x7b' :: chars) = some (.record fields, behind) := by
  rw [<- fields?_dropSpaces, starts] at read
  simp [value?, starts, goesOn, read]

theorem items?_last {bound : Nat} {chars gap behind : List Char} {item : Document}
    (blank : gap.all isSpace = true)
    (read : value? bound (dropSpaces chars) = some (item, gap ++ ']' :: behind)) :
    items? (bound + 1) chars = some ([item], behind) := by
  have closes : dropSpaces (gap ++ ']' :: behind) = ']' :: behind :=
    dropSpaces_gap blank (by decide) behind
  simp [items?, read, closes]

theorem items?_next {bound : Nat} {chars rest behind : List Char} {item : Document}
    {items : List Document} (read : value? bound (dropSpaces chars) = some (item, ',' :: rest))
    (others : items? bound rest = some (items, behind)) :
    items? (bound + 1) chars = some (item :: items, behind) := by
  have goesOn : dropSpaces (',' :: rest) = ',' :: rest := dropSpaces_cons (by decide) rest
  simp [items?, read, goesOn, others]

/-- A gap is passed in front of a name. -/
theorem dropSpaces_quoted {gap : List Char} (blank : gap.all isSpace = true) (name : String)
    (behind : List Char) :
    dropSpaces (gap ++ ((quoted name).toList ++ behind)) =
      '"' :: (name.toList.flatMap escapedChar ++ '"' :: behind) := by
  rw [toList_quoted_append]
  exact dropSpaces_gap blank (by decide) _

theorem fields?_last {bound : Nat} {front chars gap behind : List Char} {value : Document}
    (passed : front.all isSpace = true) (blank : gap.all isSpace = true) (name : String)
    (read : value? bound (dropSpaces chars) = some (value, gap ++ '\x7d' :: behind)) :
    fields? (bound + 1) (front ++ ((quoted name).toList ++ ':' :: chars)) =
      some ([(name, value)], behind) := by
  have colon : dropSpaces (':' :: chars) = ':' :: chars := dropSpaces_cons (by decide) chars
  have closes : dropSpaces (gap ++ '\x7d' :: behind) = '\x7d' :: behind :=
    dropSpaces_gap blank (by decide) behind
  simp [fields?, dropSpaces_quoted passed, content?_escaped, colon, read, closes]

theorem fields?_next {bound : Nat} {front chars rest behind : List Char} {value : Document}
    {fields : List (String × Document)} (passed : front.all isSpace = true) (name : String)
    (read : value? bound (dropSpaces chars) = some (value, ',' :: rest))
    (others : fields? bound rest = some (fields, behind)) :
    fields? (bound + 1) (front ++ ((quoted name).toList ++ ':' :: chars)) =
      some ((name, value) :: fields, behind) := by
  have colon : dropSpaces (':' :: chars) = ':' :: chars := dropSpaces_cons (by decide) chars
  have goesOn : dropSpaces (',' :: rest) = ',' :: rest := dropSpaces_cons (by decide) rest
  simp [fields?, dropSpaces_quoted passed, content?_escaped, colon, read, goesOn, others]

/-- The first item shows behind a gap. -/
theorem dropSpaces_laidItems (layout : Layout) (level : Nat) (item : Value) (rest : List Value)
    (behind : List Char) :
    Exists fun first => Exists fun more =>
      dropSpaces (Value.laidItems layout level (item :: rest) ++ behind) = first :: more ∧
        first ≠ ']' := by
  rcases laid_cons layout level item with ⟨first, more, shown, _, goesOn⟩
  cases rest with
  | nil =>
      rw [Value.laidItems, List.append_assoc, dropSpaces_laid (layout.gap_blank level), shown,
        List.cons_append]
      exact ⟨first, _, rfl, goesOn⟩
  | cons next rest =>
      rw [Value.laidItems, List.append_assoc, List.append_assoc,
        dropSpaces_laid (layout.gap_blank level), shown, List.cons_append]
      exact ⟨first, _, rfl, goesOn⟩

theorem dropSpaces_laidFields (layout : Layout) (level : Nat) (field : String × Value)
    (rest : List (String × Value)) (behind : List Char) :
    Exists fun more =>
      dropSpaces (Value.laidFields layout level (field :: rest) ++ behind) = '"' :: more := by
  rcases field with ⟨name, value⟩
  cases rest
  all_goals
    rw [Value.laidFields, List.append_assoc, List.append_assoc,
      dropSpaces_quoted (layout.gap_blank level)]
    exact ⟨_, rfl⟩

-- The recursion follows the value.  The bound is a length and shrinks with every
-- step, whichever of the three readers takes it.
mutual

theorem value?_laid (layout : Layout) (level : Nat) : (value : Value) -> (bound : Nat) ->
    (value.laid layout level).length ≤ bound -> (behind : List Char) -> EndsNumber behind ->
      value? bound (value.laid layout level ++ behind) = some (value.document, behind)
  | .natural n => by
      intro bound enough behind ends
      rcases exists_bound enough with ⟨less, rfl⟩
      rw [Value.laid, Value.document]
      exact value?_natural less n ends
  | .text content => by
      intro bound enough behind _
      rcases exists_bound enough with ⟨less, rfl⟩
      rw [Value.laid, Value.document]
      exact value?_quoted less content behind
  | .list [] => by
      intro bound enough behind _
      rcases exists_bound enough with ⟨less, rfl⟩
      rw [Value.laid, Value.document, Value.documents]
      rfl
  | .list (item :: rest) => by
      intro bound enough behind _
      rcases exists_bound enough with ⟨less, rfl⟩
      simp only [Value.laid, List.length_cons, List.length_append] at enough
      rw [Value.laid, Value.document, List.cons_append, List.append_assoc, List.append_assoc]
      rcases dropSpaces_laidItems layout (level + 1) item rest
        (layout.gap level ++ ([']'] ++ behind)) with ⟨first, more, starts, goesOn⟩
      exact value?_items starts goesOn
        (items?_laid layout (level + 1) (item :: rest) (List.cons_ne_nil item rest)
          (layout.gap level) (layout.gap_blank level) less (by omega) behind)
  | .record [] => by
      intro bound enough behind _
      rcases exists_bound enough with ⟨less, rfl⟩
      rw [Value.laid, Value.document, Value.documentFields]
      rfl
  | .record (field :: rest) => by
      intro bound enough behind _
      rcases exists_bound enough with ⟨less, rfl⟩
      simp only [Value.laid, List.length_cons, List.length_append] at enough
      rw [Value.laid, Value.document, List.cons_append, List.append_assoc, List.append_assoc]
      rcases dropSpaces_laidFields layout (level + 1) field rest
        (layout.gap level ++ (['\x7d'] ++ behind)) with ⟨more, starts⟩
      exact value?_fields starts (by decide)
        (fields?_laid layout (level + 1) (field :: rest) (List.cons_ne_nil field rest)
          (layout.gap level) (layout.gap_blank level) less (by omega) behind)

theorem items?_laid (layout : Layout) (level : Nat) : (items : List Value) -> items ≠ [] ->
    (gap : List Char) -> gap.all isSpace = true -> (bound : Nat) ->
    (Value.laidItems layout level items).length < bound -> (behind : List Char) ->
      items? bound (Value.laidItems layout level items ++ (gap ++ ']' :: behind)) =
        some (Value.documents items, behind)
  | [] => fun present => absurd rfl present
  | [item] => by
      intro _ gap blank bound enough behind
      rcases Nat.exists_eq_add_one.mpr (Nat.zero_lt_of_lt enough) with ⟨less, rfl⟩
      simp only [Value.laidItems, List.length_append] at enough
      rw [Value.laidItems, Value.documents, Value.documents, List.append_assoc]
      apply items?_last blank
      rw [dropSpaces_laid (layout.gap_blank level)]
      exact value?_laid layout level item less (by omega) _
        (endsNumber_gap blank (by decide) behind)
  | item :: next :: rest => by
      intro _ gap blank bound enough behind
      rcases Nat.exists_eq_add_one.mpr (Nat.zero_lt_of_lt enough) with ⟨less, rfl⟩
      simp only [Value.laidItems, List.length_append, List.length_cons] at enough
      rw [Value.laidItems, Value.documents, List.append_assoc, List.append_assoc]
      refine items?_next ?_
        (items?_laid layout level (next :: rest) (List.cons_ne_nil next rest) gap blank less
          (by omega) behind)
      rw [dropSpaces_laid (layout.gap_blank level)]
      exact value?_laid layout level item less (by omega) _ (endsNumber_cons (by decide) _)

theorem fields?_laid (layout : Layout) (level : Nat) : (fields : List (String × Value)) ->
    fields ≠ [] -> (gap : List Char) -> gap.all isSpace = true -> (bound : Nat) ->
    (Value.laidFields layout level fields).length < bound -> (behind : List Char) ->
      fields? bound (Value.laidFields layout level fields ++ (gap ++ '\x7d' :: behind)) =
        some (Value.documentFields fields, behind)
  | [] => fun present => absurd rfl present
  | [(name, value)] => by
      intro _ gap blank bound enough behind
      rcases Nat.exists_eq_add_one.mpr (Nat.zero_lt_of_lt enough) with ⟨less, rfl⟩
      simp only [Value.laidFields, List.length_append, List.length_cons] at enough
      rw [Value.laidFields, Value.documentFields, Value.documentFields, List.append_assoc,
        List.append_assoc, List.cons_append, List.append_assoc]
      apply fields?_last (layout.gap_blank level) blank
      rw [dropSpaces_laid layout.space_blank]
      exact value?_laid layout level value less (by omega) _
        (endsNumber_gap blank (by decide) behind)
  | (name, value) :: next :: rest => by
      intro _ gap blank bound enough behind
      rcases Nat.exists_eq_add_one.mpr (Nat.zero_lt_of_lt enough) with ⟨less, rfl⟩
      simp only [Value.laidFields, List.length_append, List.length_cons] at enough
      rw [Value.laidFields, Value.documentFields, List.append_assoc, List.append_assoc,
        List.cons_append, List.append_assoc, List.append_assoc]
      refine fields?_next (layout.gap_blank level) name ?_
        (fields?_laid layout level (next :: rest) (List.cons_ne_nil next rest) gap blank less
          (by omega) behind)
      rw [dropSpaces_laid layout.space_blank]
      exact value?_laid layout level value less (by omega) _ (endsNumber_cons (by decide) _)

end

end Reader

theorem read?_laid {layout : Layout} {level : Nat} {value : Value} {text : String}
    (shown : text.toList = value.laid layout level) : read? text = some value.document := by
  have ends : Reader.EndsNumber [] := fun _ none => nomatch none
  have read := Reader.value?_laid layout level value _ (Nat.le_refl _) [] ends
  have starts := Reader.dropSpaces_laid List.all_nil layout level value []
  rw [List.append_nil, <- shown] at read
  rw [List.append_nil, <- shown] at starts
  rw [String.length_toList] at read
  simp only [read?, List.nil_append] at starts ⊢
  rw [starts, read]
  rfl

/-- The compact layout of a value is read as its document. -/
theorem read?_compact (value : Value) : read? value.compact = some value.document :=
  read?_laid (value.toList_compact 0)

/-- So is the indented one, at every level. -/
theorem read?_indented (value : Value) (level : Nat) :
    read? (value.indented level) = some value.document :=
  read?_laid (value.toList_indented level)

end Json
end CorpusQuery
