import CorpusQuery.Proofs.Query.Grammar
import CorpusQuery.Proofs.Text.Escaped
import CorpusQuery.Query.Outline

namespace CorpusQuery

/-!
# An outline shows the whole query

Nothing in an outline says where a phrase, a word or a set ends, except that a line
with less indentation follows.  The number in a heading adds nothing to this, and a
term may hold any text, headings included.

What a part of an outline stands for is therefore compared together with what
follows it.  A line starts with its opening, which is the indentation and the word of
the heading, and no two openings can start the same line.  Members of a list end
where a line of an enclosing list starts, or the outline does (`told_listed`), and a
term ends with its line because escaped text has no closing quote inside.
-/

namespace Outline

variable {α β : Type}

/-! ## What follows a part -/

/-- Nothing, or a line with one of these openings. -/
def Behind (openings : List (List Char)) (chars : List Char) : Prop :=
  chars = [] ∨ Exists fun opening => opening ∈ openings ∧ opening <+: chars

/-- A line cannot have this opening and one of the others. -/
def Distinct (opening : List Char) (openings : List (List Char)) : Prop :=
  opening ≠ [] ∧ forall other, other ∈ openings -> ¬ opening <+: other ∧ ¬ other <+: opening

instance (opening : List Char) (openings : List (List Char)) :
    Decidable (Distinct opening openings) :=
  inferInstanceAs (Decidable (_ ∧ _))

theorem Behind.cons {openings : List (List Char)} {chars : List Char} (opening : List Char)
    (behind : Behind openings chars) : Behind (opening :: openings) chars := by
  rcases behind with none | ⟨other, member, starts⟩
  · exact Or.inl none
  · exact Or.inr ⟨other, List.mem_cons_of_mem opening member, starts⟩

theorem Behind.not_opening {opening : List Char} {openings : List (List Char)} {chars : List Char}
    (behind : Behind openings chars) (distinct : Distinct opening openings) :
    ¬ opening <+: chars := by
  intro starts
  rcases behind with none | ⟨other, member, starts'⟩
  · rw [none] at starts
    exact distinct.1 (List.prefix_nil.mp starts)
  · rcases List.prefix_or_prefix_of_prefix starts starts' with within | within
    · exact (distinct.2 other member).1 within
    · exact (distinct.2 other member).2 within

/-! ## Parts that can be told -/

/-- What is written tells what it was written for and where it ends, if what follows
it is as expected. -/
def Told (Follows : List Char -> Prop) (write : α -> List Char) : Prop :=
  forall one other rest after, Follows rest -> Follows after ->
    write one ++ rest = write other ++ after -> one = other ∧ rest = after

namespace Told

variable {Follows : List Char -> Prop} {write : α -> List Char}

/-- The same in front of everything tells nothing, and hides nothing. -/
theorem headed (told : Told Follows write) (front : List Char) :
    Told Follows fun member => front ++ write member := by
  intro one other rest after follows follows' same
  rw [List.append_assoc, List.append_assoc] at same
  exact told one other rest after follows follows' (List.append_cancel_left same)

theorem comp (told : Told Follows write) {view : β -> α}
    (injective : forall {one other}, view one = view other -> one = other) :
    Told Follows fun node => write (view node) := by
  intro one other rest after follows follows' same
  rcases told _ _ rest after follows follows' same with ⟨views, ends⟩
  exact ⟨injective views, ends⟩

end Told

/-! ## Lists of parts -/

/-- Members one after another, each written with its number. -/
def listed (write : Nat -> α -> List Char) : Nat -> List α -> List Char
  | _, [] => []
  | index, member :: rest => write index member ++ listed write (index + 1) rest

section Listed

variable {opening : List Char} {openings : List (List Char)} {write : Nat -> α -> List Char}

theorem prefix_listed (opens : forall index member, opening <+: write index member) (index : Nat)
    (member : α) (members : List α) (rest : List Char) :
    opening <+: listed write index (member :: members) ++ rest := by
  rw [listed, List.append_assoc]
  exact (opens index member).trans (List.prefix_append _ _)

/-- Behind a member comes the next one, or what follows the list. -/
theorem behind_listed (opens : forall index member, opening <+: write index member) (index : Nat)
    (members : List α) {rest : List Char} (behind : Behind openings rest) :
    Behind (opening :: openings) (listed write index members ++ rest) := by
  cases members with
  | nil => exact behind.cons opening
  | cons member members =>
      exact Or.inr ⟨opening, List.mem_cons_self, prefix_listed opens index member members rest⟩

/-- A list of members is told, if each member is told in front of the next one.  The
same numbers are given to both lists, so that they cancel. -/
theorem told_listed (distinct : Distinct opening openings)
    (opens : forall index member, opening <+: write index member)
    (told : forall index, Told (Behind (opening :: openings)) (write index)) (index : Nat) :
    Told (Behind openings) (listed write index) := by
  intro members
  induction members generalizing index with
  | nil =>
      intro others rest after behind _ same
      cases others with
      | nil => exact ⟨rfl, same⟩
      | cons other others =>
          apply absurd _ (behind.not_opening distinct)
          rw [<- List.nil_append rest]
          exact same ▸ prefix_listed opens index other others after
  | cons member members ih =>
      intro others rest after behind behind' same
      cases others with
      | nil =>
          apply absurd _ (behind'.not_opening distinct)
          rw [<- List.nil_append after]
          exact same ▸ prefix_listed opens index member members rest
      | cons other others =>
          rw [listed, listed, List.append_assoc, List.append_assoc] at same
          rcases told index member other _ _ (behind_listed opens _ members behind)
            (behind_listed opens _ others behind') same with ⟨rfl, later⟩
          rcases ih (index + 1) others rest after behind behind' later with ⟨rfl, ends⟩
          exact ⟨rfl, ends⟩

end Listed

theorem toList_numbered (heading : String) (body : α -> String) (index : Nat) (members : List α) :
    (numbered heading body index members).toList =
      listed (fun index member =>
        heading.toList ++ ((Nat.repr index).toList ++ ['\n']) ++ (body member).toList)
        index members := by
  induction members generalizing index with
  | nil => rfl
  | cons member members ih => simp [numbered, listed, ih, String.toList_append]

theorem told_numbered {heading : String} {body : α -> String} {openings : List (List Char)}
    (distinct : Distinct heading.toList openings)
    (told : Told (Behind (heading.toList :: openings)) fun member => (body member).toList) :
    Told (Behind openings) fun members => (numbered heading body 0 members).toList := by
  have shown : (fun members => (numbered heading body 0 members).toList) = listed (fun index member =>
      heading.toList ++ ((Nat.repr index).toList ++ ['\n']) ++ (body member).toList) 0 := by
    funext members
    exact toList_numbered heading body 0 members
  rw [shown]
  apply told_listed distinct
  · intro index member
    exact (List.prefix_append _ _).trans (List.prefix_append _ _)
  · intro index
    exact told.headed _

/-! ## Terms -/

theorem toList_outlineLine (term : Term) :
    term.outlineLine.toList = "      ".toList ++
      ((if term.negated then "not".toList ++ [' '] else []) ++ (term.attr.mnemonic.toList ++ ' ' ::
        ((Text.escapedText term.text).toList ++
          ((if term.isPattern then " (regex)".toList else []) ++ ['\n'])))) := by
  rcases term with ⟨attr, text, negated, isPattern⟩
  cases negated <;> cases isPattern <;>
    simp [Term.outlineLine, String.toList_append]

/-- Characters up to the first one of a kind are told by it. -/
theorem append_cons_inj {stop : Char} {front front' rest after : List Char}
    (inside : stop ∉ front) (inside' : stop ∉ front')
    (same : front ++ stop :: rest = front' ++ stop :: after) : front = front' ∧ rest = after := by
  induction front generalizing front' with
  | nil =>
      cases front' with
      | nil => exact ⟨rfl, List.tail_eq_of_cons_eq same⟩
      | cons c front' =>
          cases (List.cons.inj same).1
          exact absurd List.mem_cons_self inside'
  | cons c front ih =>
      cases front' with
      | nil =>
          cases (List.cons.inj same).1
          exact absurd List.mem_cons_self inside
      | cons c' front' =>
          rcases List.cons.inj same with ⟨rfl, later⟩
          rcases ih (List.not_mem_of_not_mem_cons inside) (List.not_mem_of_not_mem_cons inside')
            later with ⟨rfl, ends⟩
          exact ⟨rfl, ends⟩

/-- A mnemonic is one word, and not the word of a negation. -/
theorem mnemonic_word (attr : Attribute) :
    ' ' ∉ attr.mnemonic.toList ∧ attr.mnemonic.toList ≠ "not".toList := by
  cases attr <;> decide

/-- The words in front of a text tell the attribute and whether it is negated. -/
theorem told_words {negated negated' : Bool} {attr attr' : Attribute} {rest after : List Char}
    (same : (if negated then "not".toList ++ [' '] else []) ++ (attr.mnemonic.toList ++ ' ' :: rest) =
      (if negated' then "not".toList ++ [' '] else []) ++ (attr'.mnemonic.toList ++ ' ' :: after)) :
    negated = negated' ∧ attr = attr' ∧ rest = after := by
  have cut : forall {rest after : List Char},
      attr.mnemonic.toList ++ ' ' :: rest = attr'.mnemonic.toList ++ ' ' :: after ->
        attr = attr' ∧ rest = after := by
    intro rest after same
    rcases append_cons_inj (mnemonic_word attr).1 (mnemonic_word attr').1 same with ⟨name, ends⟩
    exact ⟨Attribute.mnemonic_injective (String.toList_injective name), ends⟩
  have free : ' ' ∉ "not".toList := by decide
  cases negated <;> cases negated' <;>
    simp only [Bool.false_eq_true, if_false, if_true, List.nil_append, List.append_assoc,
      List.cons_append] at same
  · exact ⟨rfl, cut same⟩
  · have words := append_cons_inj (mnemonic_word attr).1 free same
    exact absurd words.1 (mnemonic_word attr).2
  · have words := append_cons_inj free (mnemonic_word attr').1 same
    exact absurd words.1.symm (mnemonic_word attr').2
  · exact ⟨rfl, cut (append_cons_inj free free same).2⟩

theorem told_mark {isPattern isPattern' : Bool} {rest after : List Char}
    (same : (if isPattern then " (regex)".toList else []) ++ '\n' :: rest =
      (if isPattern' then " (regex)".toList else []) ++ '\n' :: after) :
    isPattern = isPattern' ∧ rest = after := by
  cases isPattern <;> cases isPattern'
  · exact ⟨rfl, List.tail_eq_of_cons_eq same⟩
  · cases same
  · cases same
  · exact ⟨rfl, List.tail_eq_of_cons_eq (List.append_cancel_left same)⟩

/-- The line of a term tells the term, whatever follows. -/
theorem told_outlineLine (Follows : List Char -> Prop) :
    Told Follows fun term : Term => term.outlineLine.toList := by
  rintro ⟨attr, text, negated, isPattern⟩ ⟨attr', text', negated', isPattern'⟩ rest after _ _ same
  simp only [toList_outlineLine, List.append_assoc, List.cons_append, List.nil_append] at same
  rcases told_words (List.append_cancel_left same) with ⟨rfl, rfl, behindWords⟩
  rcases Text.escapedText_append_inj behindWords with ⟨rfl, behindText⟩
  rcases told_mark behindText with ⟨rfl, ends⟩
  exact ⟨rfl, ends⟩

/-! ## The levels of a query -/

theorem toList_termLines (index : Nat) (terms : List Term) :
    (termLines terms).toList = listed (fun _ term => term.outlineLine.toList) index terms := by
  induction terms generalizing index with
  | nil => rfl
  | cons term terms ih => rw [termLines, String.toList_append, ih (index + 1), listed]

theorem told_termSet :
    Told (Behind ["    set ".toList, "  word ".toList, "phrase ".toList])
      fun set : TermSet => set.outline.toList := by
  have shown : (fun set : TermSet => set.outline.toList) =
      fun set => listed (fun _ term => term.outlineLine.toList) 0 set.terms := by
    funext set
    exact toList_termLines 0 set.terms
  have distinct : Distinct "      ".toList
      ["    set ".toList, "  word ".toList, "phrase ".toList] := by decide
  rw [shown]
  refine Told.comp (told_listed distinct ?_ (fun _ => told_outlineLine _) 0) TermSet.terms_injective
  intro _ term
  rw [toList_outlineLine]
  exact List.prefix_append _ _

theorem told_wordPosition :
    Told (Behind ["  word ".toList, "phrase ".toList])
      fun word : WordPosition => word.outline.toList :=
  (told_numbered (by decide) told_termSet).comp WordPosition.sets_injective

theorem told_phrase :
    Told (Behind ["phrase ".toList]) fun phrase : Phrase => phrase.outline.toList :=
  (told_numbered (by decide) told_wordPosition).comp Phrase.words_injective

theorem told_query : Told (Behind []) fun query : Query => query.outline.toList :=
  (told_numbered (by decide) told_phrase).comp Query.phrases_injective

end Outline

/-- Two queries have the same outline only if they are the same query: the same
phrases, words, sets and terms in the same order, and every term with the same
attribute, text and marks. -/
theorem Query.outline_eq_iff (query other : Query) :
    query.outline = other.outline <-> query = other := by
  constructor
  · intro same
    have nothing : Outline.Behind [] [] := Or.inl rfl
    have chars : query.outline.toList ++ [] = other.outline.toList ++ [] := by rw [same]
    exact (Outline.told_query query other [] [] nothing nothing chars).1
  · intro same
    rw [same]

end CorpusQuery
