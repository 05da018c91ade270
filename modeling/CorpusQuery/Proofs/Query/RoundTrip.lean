import CorpusQuery.Pattern.Standard
import CorpusQuery.Proofs.Query.Reading
import CorpusQuery.Proofs.Query.Terms

namespace CorpusQuery

/-!
# Canonical texts are read back

The canonical text of a query is read as that query.  Each node is written as
tokens without blanks, and the tokens derive the node again, level by level:
the text of a term is bare only if it is one word, so nothing in it can be taken
for a mark, and what follows a bare text is always a mark.  That the terms come
out unchanged is a matter of their texts alone, and that the tree does is
because a query that was read has no repetitions left to collapse.
-/

/-! ## What reading establishes -/

namespace Grammar

/-- Members that are derived have the properties that derivations give. -/
theorem Separated.forall_mem {α : Type} {separator : Mark} {member : List Token -> α -> Prop}
    {property : α -> Prop} (holds : forall tokens item, member tokens item -> property item)
    {tokens : List Token} {items : List α} (separated : Separated separator member tokens items) :
    forall item, item ∈ items -> property item := by
  have later : forall {tokens items}, Further separator member tokens items ->
      forall item, item ∈ items -> property item := by
    intro tokens items further
    induction further with
    | none => exact fun item impossible => absurd impossible List.not_mem_nil
    | more separates first rest ih => exact List.forall_mem_cons.mpr ⟨holds _ _ first, ih⟩
  cases separated with
  | intro first further => exact List.forall_mem_cons.mpr ⟨holds _ _ first, later further⟩

section AnyEngine

variable [Pattern.Engine]

theorem wellFormed_of_oneTerm {tokens : List Token} {term : Term} (derived : OneTerm tokens term) :
    term.WellFormed := by
  have bodies : forall {negated tokens}, Plain negated tokens term -> term.WellFormed := by
    intro negated tokens body
    cases body with
    | bare isWord valid => exact (Parser.wellFormed_of_termOfText valid).2.2
    | named isWord spelled opened inside =>
        cases inside with
        | empty closed valid => exact (Parser.wellFormed_of_termOfText valid).2.2
        | text carries valid closed => exact (Parser.wellFormed_of_termOfText valid).2.2
  cases derived with
  | plain body => exact bodies body
  | negated marked body => exact bodies body

/-- Every term of the tree is well formed. -/
def AllWellFormed (tree : List (List (List (List Term)))) : Prop :=
  forall phrase, phrase ∈ tree -> forall word, word ∈ phrase -> forall set, set ∈ word ->
    forall term, term ∈ set -> term.WellFormed

theorem allWellFormed_of_oneQuery {tokens : List Token} {tree : List (List (List (List Term)))}
    (derived : OneQuery tokens tree) : AllWellFormed tree := by
  refine Separated.forall_mem (fun _ phrase onePhrase => ?_) derived
  refine Separated.forall_mem (fun _ word oneWord => ?_) onePhrase
  refine Separated.forall_mem (fun _ set oneSet => ?_) oneWord
  exact Separated.forall_mem (fun _ term oneTerm => wellFormed_of_oneTerm oneTerm) oneSet

/-- Collapsing a tree leaves no terms but those of the tree. -/
theorem AllWellFormed.collapse {tree : List (List (List (List Term)))}
    (formed : AllWellFormed tree) :
    AllWellFormed (Grammar.collapse tree) := by
  intro phrase phraseMember word wordMember set setMember term termMember
  rcases List.mem_map.mp phraseMember with ⟨phrase', among, rfl⟩
  rcases List.mem_map.mp wordMember with ⟨word', among', rfl⟩
  rcases List.mem_map.mp (List.mem_eraseDups.mp setMember) with ⟨set', among'', rfl⟩
  exact formed phrase' among word' among' set' among'' term (List.mem_eraseDups.mp termMember)

end AnyEngine

theorem eraseDups_eraseDups {α : Type} [BEq α] [LawfulBEq α] (items : List α) :
    items.eraseDups.eraseDups = items.eraseDups := by
  induction items using List.reverseRecOn with
  | nil => rfl
  | append_singleton seen item ih =>
      by_cases member : item ∈ seen
      · rw [eraseDups_concat_of_mem member, ih]
      · have new : item ∉ seen.eraseDups := fun later => member (List.mem_eraseDups.mp later)
        rw [eraseDups_concat_of_not_mem member, eraseDups_concat_of_not_mem new, ih]

theorem collapseWord_collapseWord (sets : List (List Term)) :
    collapseWord (collapseWord sets) = collapseWord sets := by
  have inner : (collapseWord sets).map List.eraseDups = (collapseWord sets).map id := by
    apply List.map_congr_left
    intro set member
    rcases List.mem_map.mp (List.mem_eraseDups.mp member) with ⟨terms, _, rfl⟩
    exact eraseDups_eraseDups terms
  calc
    collapseWord (collapseWord sets) = ((collapseWord sets).map List.eraseDups).eraseDups := rfl
    _ = (collapseWord sets).eraseDups := by rw [inner, List.map_id]
    _ = collapseWord sets := eraseDups_eraseDups _

theorem collapse_collapse (tree : List (List (List (List Term)))) :
    collapse (collapse tree) = collapse tree := by
  have words : collapseWord ∘ collapseWord = collapseWord := funext collapseWord_collapseWord
  simp only [collapse, List.map_map]
  congr 1
  funext phrase
  simp only [Function.comp, List.map_map, words]

end Grammar

/-! ## Writing nodes -/

/-- Wherever these characters stand, a scanner reads tokens that derive the
item, and goes on behind them. -/
def Written {α : Type} (derives : List Token -> α -> Prop) (chars : List Char) (item : α) : Prop :=
  forall ⦃scanner : Scanner⦄ ⦃rest : List Char⦄, scanner.At (chars ++ rest) ->
    Exists fun tokens => Exists fun after =>
      scanner.Steps tokens after ∧ derives tokens item ∧ after.At rest

namespace Text

theorem joinChars_cons (separator : Char) (first : List Char) (more : List (List Char)) :
    joinChars separator (first :: more) =
      first ++ more.flatMap fun part => separator :: part := by
  induction more generalizing first with
  | nil => rw [joinChars, List.flatMap_nil, List.append_nil]
  | cons next more ih => rw [joinChars, ih, List.flatMap_cons, List.cons_append]

end Text

namespace Written

variable {α β : Type} {derives : List Token -> α -> Prop} {write : β -> List Char} {view : β -> α}

theorem mark_at {scanner : Scanner} {mark : Mark} {rest : List Char}
    (stands : scanner.At (mark.toChar :: rest)) :
    Exists fun token => Exists fun after =>
      scanner.next = (.ok token, after) ∧ token.kind = .mark mark ∧ after.At rest := by
  let token : Token := ⟨.mark mark, String.singleton mark.toChar, scanner.position⟩
  have regular : token.Regular := rfl
  have shown : scanner.At (token.raw ++ rest) := by simpa [token, Token.raw] using stands
  rcases Scanner.next_at shown regular rfl (by intro impossible; cases impossible) with
    ⟨after, read, stands⟩
  exact ⟨token, after, read, rfl, stands⟩

/-- A bare word is read as one token, whichever kind it has. -/
theorem word_at {scanner : Scanner} {word rest : List Char} (nonempty : word ≠ [])
    (bare : word.all isWordChar = true) (ends : EndsWord rest)
    (stands : scanner.At (word ++ rest)) :
    Exists fun token => Exists fun after =>
      scanner.next = (.ok token, after) ∧ token.kind = Scanner.wordKind word ∧
        token.text = String.ofList word ∧ after.At rest := by
  have front := Scanner.Before.of_word nonempty bare stands.2 ends
  let token : Token := ⟨Scanner.wordKind word, String.ofList word, scanner.position⟩
  have raw : token.raw = word := by
    rcases Scanner.wordKind_cases word with kind | kind <;> simp [token, Token.raw, kind]
  have shown : scanner.At (token.raw ++ rest) := by rw [raw]; exact stands
  rcases Scanner.next_at shown front.regular rfl (fun _ => ends) with ⟨after, read, stands⟩
  exact ⟨token, after, read, rfl, rfl, stands⟩

theorem quoted_at {scanner : Scanner} {text rest : List Char}
    (stands : scanner.At (Canonical.quoted text ++ rest)) :
    Exists fun token => Exists fun after =>
      scanner.next = (.ok token, after) ∧ token.kind = .quoted ∧ token.text = String.ofList text ∧
        after.At rest := by
  let token : Token := ⟨.quoted, String.ofList text, scanner.position⟩
  have regular : token.Regular := trivial
  have shown : scanner.At (token.raw ++ rest) := by simpa [token, Token.raw] using stands
  rcases Scanner.next_at shown regular rfl (by intro impossible; cases impossible) with
    ⟨after, read, stands⟩
  exact ⟨token, after, read, rfl, rfl, stands⟩

theorem further (separator : Mark) (nodes : List β)
    (written : forall node, node ∈ nodes -> Written derives (write node) (view node)) :
    Written (Grammar.Further separator derives)
      ((nodes.map write).flatMap fun part => separator.toChar :: part) (nodes.map view) := by
  induction nodes with
  | nil =>
      intro scanner rest stands
      exact ⟨[], scanner, .done rfl, .none, stands⟩
  | cons node nodes ih =>
      have parts := List.forall_mem_cons.mp written
      intro scanner rest stands
      simp only [List.map_cons, List.flatMap_cons, List.cons_append, List.append_assoc] at stands
      rcases mark_at stands with ⟨mark, between, read, separates, stands⟩
      rcases parts.1 stands with ⟨tokens, behind, steps, derived, stands⟩
      rcases ih parts.2 stands with ⟨others, after, later, further, stands⟩
      exact ⟨mark :: (tokens ++ others), after, .token read (steps.append later),
        .more separates derived further, stands⟩

/-- Nodes written with separators between them are read as separated members. -/
theorem separated (separator : Mark) (first : β) (more : List β)
    (written : forall node, node ∈ first :: more -> Written derives (write node) (view node)) :
    Written (Grammar.Separated separator derives)
      (Text.joinChars separator.toChar ((first :: more).map write)) ((first :: more).map view) := by
  have parts := List.forall_mem_cons.mp written
  intro scanner rest stands
  rw [List.map_cons, Text.joinChars_cons, List.append_assoc] at stands
  rcases parts.1 stands with ⟨tokens, behind, steps, derived, stands⟩
  rcases further separator more parts.2 stands with ⟨others, after, later, further, stands⟩
  exact ⟨tokens ++ others, after, steps.append later, .intro derived further, stands⟩

/-! ## Terms -/

theorem endsWord_toChar (mark : Mark) (rest : List Char) : EndsWord (mark.toChar :: rest) :=
  endsWord_cons.mpr (isWordChar_toChar mark)

/-- Mnemonics are words in lower case. -/
theorem mnemonic_word (attr : Attribute) :
    attr.mnemonic.toList ≠ [] ∧ attr.mnemonic.toList.all isWordChar = true ∧
      Scanner.wordKind attr.mnemonic.toList = .word ∧
        attr.mnemonic.toList.map Text.lowerAscii = attr.mnemonic.toList := by
  have checked : forall attr, attr ∈ Attribute.all ->
      attr.mnemonic.toList ≠ [] ∧ attr.mnemonic.toList.all isWordChar = true ∧
        Scanner.wordKind attr.mnemonic.toList = .word ∧
          attr.mnemonic.toList.map Text.lowerAscii = attr.mnemonic.toList := by
    decide +kernel
  exact checked attr (Attribute.mem_all attr)

variable [Pattern.Engine]

/-- The text of a term is one token, or nothing when it is empty, and the
parenthesis behind it ends it. -/
theorem payload {attr : Attribute} {negated : Bool} {text : List Char} {term : Term}
    (valid : Parser.termOfText attr negated (String.ofList text) = .ok term) :
    Written (Grammar.Payload attr negated) (Canonical.payload text ++ [Mark.toChar .closeParen])
      term := by
  intro scanner rest stands
  rw [List.append_assoc, List.singleton_append] at stands
  unfold Canonical.payload at stands
  split at stands
  next bare =>
    cases text with
    | nil =>
        -- An empty text is written as nothing, and the payload is left out.
        rcases mark_at stands with ⟨closing, after, read, closed, stands⟩
        exact ⟨[closing], after, .token read (.done rfl), .empty closed valid, stands⟩
    | cons c letters =>
        rcases word_at (List.cons_ne_nil c letters) bare (endsWord_toChar _ rest) stands with
          ⟨token, between, read, kind, shown, stands⟩
        rcases mark_at stands with ⟨closing, after, read', closed, stands⟩
        have carries : token.isText = true := by
          rcases Scanner.wordKind_cases (c :: letters) with same | same <;>
            simp [Token.isText, kind, same]
        exact ⟨[token, closing], after, .token read (.token read' (.done rfl)),
          .text carries (by rw [shown]; exact valid) closed, stands⟩
  next =>
    rcases quoted_at stands with ⟨token, between, read, kind, shown, stands⟩
    rcases mark_at stands with ⟨closing, after, read', closed, stands⟩
    have carries : token.isText = true := by simp [Token.isText, kind]
    exact ⟨[token, closing], after, .token read (.token read' (.done rfl)),
      .text carries (by rw [shown]; exact valid) closed, stands⟩

theorem plain {term : Term} (formed : term.WellFormed) :
    Written (Grammar.Plain term.negated)
      (term.attr.mnemonic.toList ++
        Mark.toChar .openParen :: (Canonical.payload term.shownText ++ [Mark.toChar .closeParen]))
      term := by
  intro scanner rest stands
  have name := mnemonic_word term.attr
  rw [List.append_assoc, List.cons_append] at stands
  rcases word_at name.1 name.2.1 (endsWord_toChar _ _) stands with
    ⟨token, between, read, kind, shown, stands⟩
  rcases mark_at stands with ⟨opening, behind, read', opened, stands⟩
  rcases payload (Parser.termOfText_shownText formed) stands with
    ⟨tokens, after, steps, inside, stands⟩
  refine ⟨token :: opening :: tokens, after, .token read (.token read' steps), ?_, stands⟩
  refine .named (kind.trans name.2.2.1) ?_ opened inside
  rw [shown, String.ofList_toList]
  exact name.2.2.2

theorem term {term : Term} (formed : term.WellFormed) :
    Written Grammar.OneTerm term.canonicalChars term := by
  intro scanner rest stands
  have body := plain formed
  cases negated : term.negated with
  | false =>
      simp only [Term.canonicalChars, negated, Bool.false_eq_true, if_false,
        List.nil_append] at stands
      rw [negated] at body
      rcases body stands with ⟨tokens, after, steps, derived, stands⟩
      exact ⟨tokens, after, steps, .plain derived, stands⟩
  | true =>
      simp only [Term.canonicalChars, negated, if_true, List.cons_append] at stands
      rw [negated] at body
      have bangStands : scanner.At (Mark.toChar .bang :: _) := stands
      rcases mark_at bangStands with ⟨bang, between, read, marked, stands⟩
      rcases body stands with ⟨tokens, after, steps, derived, stands⟩
      exact ⟨bang :: tokens, after, .token read steps, .negated marked derived, stands⟩

/-! ## Nodes -/

theorem termSet {set : TermSet} (formed : forall term, term ∈ set.terms -> term.WellFormed) :
    Written Grammar.OneSet set.canonicalChars set.terms := by
  have written : Written Grammar.OneSet set.canonicalChars (set.terms.map id) :=
    separated .colon set.first set.more fun node member => term (formed node member)
  rwa [List.map_id] at written

theorem wordPosition {word : WordPosition}
    (formed : forall set, set ∈ word.sets -> forall term, term ∈ set.terms -> term.WellFormed) :
    Written Grammar.OneWord word.canonicalChars word.tree :=
  separated .semicolon word.first word.more fun node member => termSet (formed node member)

theorem phrase {phrase : Phrase}
    (formed : forall word, word ∈ phrase.words -> forall set, set ∈ word.sets ->
      forall term, term ∈ set.terms -> term.WellFormed) :
    Written Grammar.OnePhrase phrase.canonicalChars phrase.tree :=
  separated .dollar phrase.first phrase.more fun node member => wordPosition (formed node member)

end Written

/-! ## Whole queries -/

namespace Query

section AnyEngine

variable [Pattern.Engine]

/-- Every term of the query is well formed. -/
def WellFormed (query : Query) : Prop :=
  forall phrase, phrase ∈ query.phrases -> forall word, word ∈ phrase.words ->
    forall set, set ∈ word.sets -> forall term, term ∈ set.terms -> term.WellFormed

theorem written {query : Query} (formed : query.WellFormed) :
    Written Grammar.OneQuery query.canonicalChars query.tree :=
  Written.separated .bar query.first query.more fun node member =>
    Written.phrase (formed node member)

/-- A query of well-formed terms without repetitions is read back from its
canonical text. -/
theorem parse_canonical_of_wellFormed {query : Query} (formed : query.WellFormed)
    (collapsed : Grammar.collapse query.tree = query.tree) : parse query.canonical = .ok query := by
  have stands : Scanner.At (.ofText query.canonical) (query.canonicalChars ++ []) := by
    rw [List.append_nil, ← String.toList_ofList (l := query.canonicalChars)]
    exact Scanner.at_ofText query.canonical
  rcases written formed stands with ⟨tokens, last, steps, derived, stands⟩
  rcases Scanner.next_at_nil stands with ⟨ending, after, read, atEnd⟩
  have inside := (Parser.separated_inside (Parser.separated_inside (Parser.separated_inside
    (Parser.separated_inside Parser.oneTerm_inside))) derived).2
  refine parse_of_derived (Scanner.yields_iff.mpr ⟨inside, last, after, steps, read, atEnd⟩) ?_
  exact ⟨query.tree, derived, collapsed.symm⟩

/-- What was read is well formed and has no repetitions. -/
theorem wellFormed_of_parse {text : String} {query : Query} (accepted : parse text = .ok query) :
    query.WellFormed ∧ Grammar.collapse query.tree = query.tree := by
  rcases derived_of_parse accepted with ⟨tokens, ending, _, tree, derived, same⟩
  have formed : Grammar.AllWellFormed query.tree := by
    rw [same]
    exact (Grammar.allWellFormed_of_oneQuery derived).collapse
  constructor
  · intro phrase among word among' set among'' term member
    exact formed _ (List.mem_map_of_mem among) _ (List.mem_map_of_mem among') _
      (List.mem_map_of_mem among'') term member
  · rw [same, Grammar.collapse_collapse]

theorem parse_eq_ok_of_toOption {text : String} {query : Query}
    (found : (parse text).toOption = some query) : parse text = .ok query := by
  cases result : parse text with
  | error fault => rw [result] at found; cases found
  | ok other => rw [result] at found; cases found; rfl

/-- The canonical text of an accepted text is read as the same query.  Hence it
is its own canonical text, and accepted texts have equal canonical texts exactly
when they are read as equal queries. -/
theorem parse_canonical {text : String} {query : Query} (accepted : parse text = .ok query) :
    parse query.canonical = .ok query ∧
      (forall again, parse query.canonical = .ok again -> again.canonical = query.canonical) ∧
        forall other otherQuery, parse other = .ok otherQuery ->
          (otherQuery.canonical = query.canonical <-> otherQuery = query) := by
  have back : forall {text query}, parse text = .ok query -> parse query.canonical = .ok query := by
    intro text query accepted
    have facts := wellFormed_of_parse accepted
    exact parse_canonical_of_wellFormed facts.1 facts.2
  refine ⟨back accepted, ?_, ?_⟩
  · intro again accepted'
    have same := (back accepted).symm.trans accepted'
    cases same
    rfl
  · intro other otherQuery accepted'
    constructor
    · intro same
      have both := back accepted'
      rw [same, back accepted] at both
      cases both
      rfl
    · intro same
      rw [same]

end AnyEngine

/-- Two spellings of one query with a pattern, letters in both cases, repeated
terms and sets, and a quoted text with a quote in it. -/
theorem parse_canonical_of_spellings :
    let query : Query :=
      ⟨⟨⟨⟨⟨.spelling, "^u", false, true⟩, [⟨.speakerMortality, "1", true, false⟩]⟩,
        [⟨⟨.publicationYearEarly, ">= 1600", false, false⟩, []⟩]⟩,
        [⟨⟨⟨.headword, "to \"be\"", false, false⟩, []⟩, []⟩]⟩, []⟩
    parse "spe(\x7b^u\x7d):!mor(S) :!MOR(i);pye(\" >= 1600\");pye(\">= 1600\")$lem(\"to \\\"be\\\"\")" =
        .ok query ∧
      query.canonical = "spe(\x7b^u\x7d):!mor(i);pye(\">= 1600\")$lem(\"to \\\"be\\\"\")" ∧
        parse query.canonical = .ok query := by
  intro query
  have read : (parse
      "spe(\x7b^u\x7d):!mor(S) :!MOR(i);pye(\" >= 1600\");pye(\">= 1600\")$lem(\"to \\\"be\\\"\")").toOption =
        some query := by decide +kernel
  have accepted := parse_eq_ok_of_toOption read
  exact ⟨accepted, by decide +kernel, (parse_canonical accepted).1⟩

end Query

end CorpusQuery
