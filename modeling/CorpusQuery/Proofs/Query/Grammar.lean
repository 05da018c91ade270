import CorpusQuery.Query.Parser

namespace CorpusQuery

/-!
# The grammar of queries

The grammar relates lists of tokens to trees, without a scanner and without any
order of reading:

    query  := phrase ('|' phrase)*
    phrase := word ('$' word)*
    word   := set (';' set)*
    set    := term (':' term)*
    term   := ['!'] ( name '(' [text] ')' | word )

A tree is what the derivation itself gives, with every member that is written
down.  Queries keep less: of equal terms in a set, and then of equal sets in a
word, only the first remains.  `Grammar.collapse` says this on whole trees, and
`Query.tree` views a query as a tree again.
-/

/-! ## Names of attributes -/

namespace Attribute

theorem mem_all (attr : Attribute) : attr ∈ all := by
  cases attr <;> decide

theorem mnemonic_injective {attr other : Attribute} (same : attr.mnemonic = other.mnemonic) :
    attr = other := by
  have distinct : forall first, first ∈ all -> forall second, second ∈ all ->
      first.mnemonic = second.mnemonic -> first = second := by decide +kernel
  exact distinct attr (mem_all attr) other (mem_all other) same

/-- Looking up a name finds the attribute whose mnemonic it spells in either
case, and nothing else. -/
theorem ofMnemonic?_eq_some_iff {name : String} {attr : Attribute} :
    ofMnemonic? name = some attr <-> name.toList.map Text.lowerAscii = attr.mnemonic.toList := by
  unfold ofMnemonic?
  constructor
  · intro found
    have same := List.find?_some found
    rw [decide_eq_true_eq] at same
    rw [same, String.toList_ofList]
  · intro spelled
    rw [spelled, String.ofList_toList]
    cases found : all.find? fun other => other.mnemonic = attr.mnemonic with
    | none =>
        have missed := List.find?_eq_none.mp found attr (mem_all attr)
        exact False.elim (missed (decide_eq_true rfl))
    | some other =>
        have same := List.find?_some found
        rw [mnemonic_injective (of_decide_eq_true same)]

end Attribute

/-! ## Derivations -/

namespace Grammar

section AnyEngine

variable [Pattern.Engine]

/-- `[text] ')'`: what stands behind the opening parenthesis of a term. -/
inductive Payload (attr : Attribute) (negated : Bool) : List Token -> Term -> Prop
  | empty {closing : Token} {term : Term} (closed : closing.kind = .mark .closeParen)
      (valid : Parser.termOfText attr negated "" = .ok term) : Payload attr negated [closing] term
  | text {text closing : Token} {term : Term} (carries : text.isText = true)
      (valid : Parser.termOfText attr negated text.text = .ok term)
      (closed : closing.kind = .mark .closeParen) : Payload attr negated [text, closing] term

/-- `name '(' [text] ')' | word`: a term but for its negation.  A bare word
tests the spelling. -/
inductive Plain (negated : Bool) : List Token -> Term -> Prop
  | named {name opening : Token} {attr : Attribute} {payload : List Token} {term : Term}
      (word : name.kind = .word)
      (spelled : name.text.toList.map Text.lowerAscii = attr.mnemonic.toList)
      (opened : opening.kind = .mark .openParen) (inside : Payload attr negated payload term) :
      Plain negated (name :: opening :: payload) term
  | bare {word : Token} {term : Term} (isWord : word.kind = .word)
      (valid : Parser.termOfText .spelling negated word.text = .ok term) : Plain negated [word] term

/-- A term, with a bang before it when it is negated. -/
inductive OneTerm : List Token -> Term -> Prop
  | plain {tokens : List Token} {term : Term} (body : Plain false tokens term) : OneTerm tokens term
  | negated {bang : Token} {tokens : List Token} {term : Term} (marked : bang.kind = .mark .bang)
      (body : Plain true tokens term) : OneTerm (bang :: tokens) term

end AnyEngine

section Separated

variable {α β : Type}

/-- `(separator member)*` -/
inductive Further (separator : Mark) (member : List Token -> α -> Prop) :
    List Token -> List α -> Prop
  | none : Further separator member [] []
  | more {mark : Token} {tokens rest : List Token} {item : α} {items : List α}
      (separates : mark.kind = .mark separator) (first : member tokens item)
      (later : Further separator member rest items) :
      Further separator member (mark :: (tokens ++ rest)) (item :: items)

/-- `member (separator member)*` -/
inductive Separated (separator : Mark) (member : List Token -> α -> Prop) :
    List Token -> List α -> Prop
  | intro {tokens rest : List Token} {item : α} {items : List α} (first : member tokens item)
      (later : Further separator member rest items) :
      Separated separator member (tokens ++ rest) (item :: items)

/-- Reading members as other nodes, related to them through views, reads the
lists of nodes related in the same way. -/
theorem Further.view {κ : Type} {separator : Mark} {member : List Token -> α -> Prop}
    {shown : β -> κ} {kept : α -> κ} {tokens : List Token} {nodes : List β}
    (further : Further separator
      (fun tokens node => Exists fun item => member tokens item ∧ shown node = kept item)
      tokens nodes) :
    Exists fun items =>
      Further separator member tokens items ∧ nodes.map shown = items.map kept := by
  induction further with
  | none => exact ⟨[], .none, rfl⟩
  | more separates first later ih =>
      rcases first with ⟨item, derived, same⟩
      rcases ih with ⟨items, further, others⟩
      exact ⟨item :: items, .more separates derived further, by
        rw [List.map_cons, List.map_cons, same, others]⟩

theorem Separated.view {κ : Type} {separator : Mark} {member : List Token -> α -> Prop}
    {shown : β -> κ} {kept : α -> κ} {tokens : List Token} {nodes : List β}
    (separated : Separated separator
      (fun tokens node => Exists fun item => member tokens item ∧ shown node = kept item)
      tokens nodes) :
    Exists fun items =>
      Separated separator member tokens items ∧ nodes.map shown = items.map kept := by
  cases separated with
  | intro first later =>
      rcases first with ⟨item, derived, same⟩
      rcases later.view with ⟨items, further, others⟩
      exact ⟨item :: items, .intro derived further, by
        rw [List.map_cons, List.map_cons, same, others]⟩

/-- Conversely members become nodes when every member that is derived has one. -/
theorem Further.lift {κ : Type} {separator : Mark} {member : List Token -> α -> Prop}
    {shown : β -> κ} {kept : α -> κ} {tokens : List Token} {items : List α}
    (further : Further separator member tokens items)
    (node : forall tokens item, member tokens item -> Exists fun node => shown node = kept item) :
    Exists fun nodes => nodes.map shown = items.map kept ∧ Further separator
      (fun tokens node => Exists fun item => member tokens item ∧ shown node = kept item)
      tokens nodes := by
  induction further with
  | none => exact ⟨[], rfl, .none⟩
  | more separates first later ih =>
      rcases node _ _ first with ⟨top, same⟩
      rcases ih with ⟨nodes, others, further⟩
      exact ⟨top :: nodes, by rw [List.map_cons, List.map_cons, same, others],
        .more separates ⟨_, first, same⟩ further⟩

theorem Separated.lift {κ : Type} {separator : Mark} {member : List Token -> α -> Prop}
    {shown : β -> κ} {kept : α -> κ} {tokens : List Token} {items : List α}
    (separated : Separated separator member tokens items)
    (node : forall tokens item, member tokens item -> Exists fun node => shown node = kept item) :
    Exists fun nodes => nodes.map shown = items.map kept ∧ Separated separator
      (fun tokens node => Exists fun item => member tokens item ∧ shown node = kept item)
      tokens nodes := by
  cases separated with
  | intro first later =>
      rcases node _ _ first with ⟨top, same⟩
      rcases later.lift node with ⟨nodes, others, further⟩
      exact ⟨top :: nodes, by rw [List.map_cons, List.map_cons, same, others],
        .intro ⟨_, first, same⟩ further⟩

end Separated

section AnyEngine

variable [Pattern.Engine]

abbrev OneSet : List Token -> List Term -> Prop := Separated .colon OneTerm

abbrev OneWord : List Token -> List (List Term) -> Prop := Separated .semicolon OneSet

abbrev OnePhrase : List Token -> List (List (List Term)) -> Prop := Separated .dollar OneWord

abbrev OneQuery : List Token -> List (List (List (List Term))) -> Prop := Separated .bar OnePhrase

end AnyEngine

/-- Equal terms of each set and then equal sets of the word, collapsed to their
first occurrence. -/
def collapseWord (sets : List (List Term)) : List (List Term) :=
  (sets.map List.eraseDups).eraseDups

theorem Separated.ne_nil {α : Type} {separator : Mark} {member : List Token -> α -> Prop}
    {tokens : List Token} {items : List α} (separated : Separated separator member tokens items) :
    items ≠ [] := by
  cases separated
  exact List.cons_ne_nil _ _

/-- The words of a tree, collapsed. -/
def collapse (tree : List (List (List (List Term)))) : List (List (List (List Term))) :=
  tree.map (List.map collapseWord)

end Grammar

/-! ## Collapsing -/

theorem eraseDups_concat_of_mem {α : Type} [BEq α] [LawfulBEq α] {seen : List α} {item : α}
    (member : item ∈ seen) : (seen ++ [item]).eraseDups = seen.eraseDups := by
  have nothing : List.removeAll [item] seen = [] := by simp [List.removeAll, member]
  rw [List.eraseDups_append, nothing, List.eraseDups_nil, List.append_nil]

theorem eraseDups_concat_of_not_mem {α : Type} [BEq α] [LawfulBEq α] {seen : List α} {item : α}
    (new : item ∉ seen) : (seen ++ [item]).eraseDups = seen.eraseDups ++ [item] := by
  have kept : List.removeAll [item] seen = [item] := by simp [List.removeAll, new]
  rw [List.eraseDups_append, kept, List.eraseDups_cons]
  rfl

/-- A node that refuses members it already has ends up with the collapsed list
of all members offered to it.  The view says what counts as equal. -/
theorem foldl_eraseDups {α β κ : Type} [BEq κ] [LawfulBEq κ] {view : β -> List κ} {key : α -> κ}
    {add : β -> α -> β}
    (known : forall node item, key item ∈ view node -> view (add node item) = view node)
    (new : forall node item, key item ∉ view node -> view (add node item) = view node ++ [key item])
    (seen : List κ) (items : List α) (node : β) (start : view node = seen.eraseDups) :
    view (items.foldl add node) = (seen ++ items.map key).eraseDups := by
  induction items generalizing seen node with
  | nil => rw [List.map_nil, List.append_nil, List.foldl_nil, start]
  | cons item items ih =>
      have extended : view (add node item) = (seen ++ [key item]).eraseDups := by
        by_cases member : key item ∈ seen
        · rw [eraseDups_concat_of_mem member, ← start]
          exact known node item (by rw [start]; exact List.mem_eraseDups.mpr member)
        · rw [eraseDups_concat_of_not_mem member, ← start]
          exact new node item
            (by rw [start]; exact fun later => member (List.mem_eraseDups.mp later))
      rw [List.foldl_cons, ih (seen ++ [key item]) _ extended, List.append_assoc]
      rfl

/-- The same for a node that keeps everything. -/
theorem foldl_append {α β κ : Type} {view : β -> List κ} {key : α -> κ} {add : β -> α -> β}
    (step : forall node item, view (add node item) = view node ++ [key item])
    (items : List α) (node : β) : view (items.foldl add node) = view node ++ items.map key := by
  induction items generalizing node with
  | nil => rw [List.map_nil, List.append_nil, List.foldl_nil]
  | cons item items ih =>
      rw [List.foldl_cons, ih, step, List.append_assoc]
      rfl

/-! ## Queries as trees -/

namespace TermSet

theorem terms_injective {first second : TermSet} (same : first.terms = second.terms) :
    first = second := by
  rcases first with ⟨term, more⟩
  rcases second with ⟨term', more'⟩
  cases same
  rfl

theorem terms_push_of_mem {set : TermSet} {term : Term} (member : term ∈ set.terms) :
    (set.push term).terms = set.terms := by
  rw [push, if_pos member]

theorem terms_push_of_not_mem {set : TermSet} {term : Term} (new : term ∉ set.terms) :
    (set.push term).terms = set.terms ++ [term] := by
  rw [push, if_neg new]
  rfl

/-- A set to which terms are added one by one holds each of them once. -/
theorem terms_foldl (first : Term) (more : List Term) :
    (more.foldl push ⟨first, []⟩).terms = (first :: more).eraseDups := by
  have folded : (more.foldl push ⟨first, []⟩).terms = ([first] ++ more.map id).eraseDups :=
    foldl_eraseDups (fun _ _ => terms_push_of_mem) (fun _ _ => terms_push_of_not_mem)
      [first] more (TermSet.mk first []) rfl
  rwa [List.map_id] at folded

end TermSet

namespace WordPosition

def tree (word : WordPosition) : List (List Term) :=
  word.sets.map TermSet.terms

theorem sets_injective {first second : WordPosition} (same : first.sets = second.sets) :
    first = second := by
  rcases first with ⟨set, more⟩
  rcases second with ⟨set', more'⟩
  cases same
  rfl

theorem tree_injective {first second : WordPosition} (same : first.tree = second.tree) :
    first = second :=
  sets_injective ((List.map_inj_right fun _ _ => TermSet.terms_injective).mp same)

theorem mem_tree_iff {word : WordPosition} {set : TermSet} :
    set.terms ∈ word.tree <-> set ∈ word.sets := by
  constructor
  · intro member
    rcases List.mem_map.mp member with ⟨other, among, same⟩
    exact TermSet.terms_injective same ▸ among
  · exact List.mem_map_of_mem

theorem tree_push_of_mem {word : WordPosition} {set : TermSet} (member : set.terms ∈ word.tree) :
    (word.push set).tree = word.tree := by
  rw [push, if_pos (mem_tree_iff.mp member)]

theorem tree_push_of_not_mem {word : WordPosition} {set : TermSet} (new : set.terms ∉ word.tree) :
    (word.push set).tree = word.tree ++ [set.terms] := by
  rw [push, if_neg (fun member => new (mem_tree_iff.mpr member))]
  simp only [tree, sets, List.map_cons, List.map_append, List.map_nil, List.cons_append]

theorem tree_foldl (first : TermSet) (more : List TermSet) :
    (more.foldl push ⟨first, []⟩).tree = ((first :: more).map TermSet.terms).eraseDups := by
  have folded : (more.foldl push ⟨first, []⟩).tree =
      ([first.terms] ++ more.map TermSet.terms).eraseDups :=
    foldl_eraseDups (fun _ _ => tree_push_of_mem) (fun _ _ => tree_push_of_not_mem)
      [first.terms] more (WordPosition.mk first []) rfl
  exact folded

end WordPosition

namespace Phrase

def tree (phrase : Phrase) : List (List (List Term)) :=
  phrase.words.map WordPosition.tree

theorem words_injective {first second : Phrase} (same : first.words = second.words) :
    first = second := by
  rcases first with ⟨word, more⟩
  rcases second with ⟨word', more'⟩
  cases same
  rfl

theorem tree_injective {first second : Phrase} (same : first.tree = second.tree) :
    first = second :=
  words_injective ((List.map_inj_right fun _ _ => WordPosition.tree_injective).mp same)

theorem tree_push (phrase : Phrase) (word : WordPosition) :
    (phrase.push word).tree = phrase.tree ++ [word.tree] := by
  simp only [tree, words, push, List.map_cons, List.map_append, List.map_nil, List.cons_append]

theorem tree_foldl (first : WordPosition) (more : List WordPosition) :
    (more.foldl push ⟨first, []⟩).tree = (first :: more).map WordPosition.tree := by
  rw [foldl_append tree_push]
  rfl

end Phrase

namespace Query

/-- The terms of a query by phrase, word and set. -/
def tree (query : Query) : List (List (List (List Term))) :=
  query.phrases.map Phrase.tree

theorem phrases_injective {first second : Query} (same : first.phrases = second.phrases) :
    first = second := by
  rcases first with ⟨phrase, more⟩
  rcases second with ⟨phrase', more'⟩
  cases same
  rfl

/-- A query is determined by its tree. -/
theorem tree_injective {first second : Query} (same : first.tree = second.tree) :
    first = second :=
  phrases_injective ((List.map_inj_right fun _ _ => Phrase.tree_injective).mp same)

theorem tree_push (query : Query) (phrase : Phrase) :
    (query.push phrase).tree = query.tree ++ [phrase.tree] := by
  simp only [tree, phrases, push, List.map_cons, List.map_append, List.map_nil, List.cons_append]

theorem tree_foldl (first : Phrase) (more : List Phrase) :
    (more.foldl push ⟨first, []⟩).tree = (first :: more).map Phrase.tree := by
  rw [foldl_append tree_push]
  rfl

end Query

/-! ## Derivations of nodes -/

namespace Grammar

theorem eraseDups_ne_nil {α : Type} [BEq α] {items : List α} (nonempty : items ≠ []) :
    items.eraseDups ≠ [] := by
  cases items with
  | nil => exact False.elim (nonempty rfl)
  | cons item items =>
      rw [List.eraseDups_cons]
      exact List.cons_ne_nil _ _

variable [Pattern.Engine]

/-- The tokens derive a set with these terms, repetitions being dropped. -/
def SetNode (tokens : List Token) (set : TermSet) : Prop :=
  Exists fun terms => OneSet tokens terms ∧ set.terms = terms.eraseDups

def WordNode (tokens : List Token) (word : WordPosition) : Prop :=
  Exists fun sets => OneWord tokens sets ∧ word.tree = collapseWord sets

def PhraseNode (tokens : List Token) (phrase : Phrase) : Prop :=
  Exists fun words => OnePhrase tokens words ∧ phrase.tree = words.map collapseWord

def QueryNode (tokens : List Token) (query : Query) : Prop :=
  Exists fun tree => OneQuery tokens tree ∧ query.tree = collapse tree

/-- Every list of terms that is derived belongs to a set. -/
theorem exists_set {tokens : List Token} {terms : List Term} (derived : OneSet tokens terms) :
    Exists fun set : TermSet => set.terms = terms.eraseDups := by
  cases shown : terms.eraseDups with
  | nil => exact False.elim (eraseDups_ne_nil derived.ne_nil shown)
  | cons term more => exact ⟨⟨term, more⟩, rfl⟩

theorem exists_word {tokens : List Token} {sets : List (List Term)}
    (derived : OneWord tokens sets) :
    Exists fun word : WordPosition => word.tree = collapseWord sets := by
  rcases derived.lift (fun _ _ => exists_set) with ⟨nodes, same, separated⟩
  cases nodes with
  | nil => exact False.elim (separated.ne_nil rfl)
  | cons first more =>
      refine ⟨more.foldl WordPosition.push ⟨first, []⟩, ?_⟩
      rw [WordPosition.tree_foldl, collapseWord, same]

theorem exists_phrase {tokens : List Token} {words : List (List (List Term))}
    (derived : OnePhrase tokens words) :
    Exists fun phrase : Phrase => phrase.tree = words.map collapseWord := by
  rcases derived.lift (fun _ _ => exists_word) with ⟨nodes, same, separated⟩
  cases nodes with
  | nil => exact False.elim (separated.ne_nil rfl)
  | cons first more => exact ⟨⟨first, more⟩, same⟩

end Grammar

end CorpusQuery
