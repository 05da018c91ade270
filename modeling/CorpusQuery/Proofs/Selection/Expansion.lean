import CorpusQuery.Pattern.Standard
import CorpusQuery.Proofs.Selection.Verdicts

namespace CorpusQuery

open Store

/-!
# Patterns tried on known tags

A pattern on the part of speech is left to the store as long as no tags are known.
Otherwise it is tried on every known tag.  The condition then lists the tags in
which the pattern occurs.  If there are none, it never holds, or is left out when
the term is negated.

For a part of a word whose tag is known, both ways come to the same verdict.  No
other attribute looks at the tags, and within a set a condition that is left out
counts as one that holds.
-/

variable {Object : Type} [DecidableEq Object]

/-! ## Lists of texts -/

namespace Store.Datum

theorem compare_equal_text (one other : String) :
    (text one : Datum Object).compare .equal (text other) = some (decide (one = other)) := by
  rw [compare, relates]
  congr 1
  rw [Bool.eq_iff_iff, beq_iff_eq, Std.LawfulEqOrd.compare_eq_iff_eq, decide_eq_true_iff]

theorem member_text (negated : Bool) (content : String) (listed : List String) :
    (text content : Datum Object).member negated (listed.map text) =
      some (decide (content ∈ listed) != negated) := by
  have found : Truth.any (listed.map fun other => some (decide (content = other))) =
      some (decide (content ∈ listed)) := by
    induction listed with
    | nil => rfl
    | cons first rest ih =>
        rw [List.map_cons, Truth.any, List.foldr_cons]
        change Truth.either _ (Truth.any _) = _
        rw [ih]
        by_cases same : content = first
        · simp [same, Truth.either]
        · simp [same, Truth.either]
  rw [member, List.map_map]
  change (Truth.any (listed.map fun other =>
    (text content : Datum Object).compare .equal (text other))).negateIf negated = _
  simp only [compare_equal_text, found, Truth.negateIf, Option.map_some]

end Store.Datum

/-! ## Terms -/

theorem Attribute.eq_partOfSpeech {attr : Attribute} (domain : attr.domain = .externalCodes) :
    attr = .partOfSpeech := by
  cases attr <;> cases domain
  rfl

namespace Term

variable [Pattern.Engine]

theorem test_storeMatch {term : Term} {pattern : Pattern}
    (compiled : Pattern.compile? term.text = some pattern) (content : String) :
    (term.storeMatch "").test (.text content : Datum Object) =
      some (pattern.occursIn content != term.negated) := by
  rw [storeMatch]
  cases term.negated <;> simp [Condition.negateIf, Condition.test, Datum.finds, compiled,
    Truth.negateIf]

/-- On a text that is one of the codes, a pattern tried on the codes gives what the
store would find. -/
theorem test_membership (term : Term) {content : String} {codes : List String}
    (known : content ∈ codes) :
    ((term.membership "" codes .literal).map
        (Condition.test (.text content : Datum Object))).getD (some true) =
      (term.storeMatch "").test (.text content : Datum Object) := by
  rw [membership, matchingCodes?]
  cases compiled : Pattern.compile? term.text with
  | none => rfl
  | some pattern =>
      rw [test_storeMatch compiled, Option.map_some]
      cases found : codes.filter pattern.occursIn with
      | nil =>
          have absent : pattern.occursIn content = false := by
            simpa using List.filter_eq_nil_iff.mp found content known
          rw [absent]
          cases term.negated <;> simp [Condition.test]
      | cons first rest =>
          have listed : decide (content ∈ first :: rest) = pattern.occursIn content := by
            rw [<- found, Bool.eq_iff_iff, decide_eq_true_iff, List.mem_filter]
            exact and_iff_right known
          have data : ((first :: rest).map Operand.literal).map Operand.datum =
              (first :: rest).map (Datum.text : String -> Datum Object) := by
            rw [List.map_map]
            rfl
          change (Datum.text content).member term.negated _ = _
          rw [data, Datum.member_text, listed]

/-- Known tags make no difference where the part of the word has one of them. -/
theorem test_known (term : Term) {tags : TagSet} {tag : String} (known : tag ∈ tags.codes)
    {data : Attribute -> Datum Object} (tagged : data .partOfSpeech = .text tag) :
    (term.test tags data).getD (some true) = (term.test .empty data).getD (some true) := by
  have filled : tags.isEmpty = false := by
    rw [TagSet.isEmpty, List.isEmpty_eq_false_iff]
    exact List.ne_nil_of_mem known
  unfold test question?
  split
  · rfl
  · unfold conditionOn
    cases domain : term.attr.domain with
    | numeric => rfl
    | presence table => rfl
    | categorical table => rfl
    | text => rfl
    | externalCodes =>
        cases pattern : term.isPattern with
        | false => rfl
        | true =>
            rw [Attribute.eq_partOfSpeech domain, tagged]
            simp only [filled, Bool.false_eq_true, if_false, if_true]
            exact term.test_membership known

end Term

/-! ## Sets -/

/-- A set that the reader returned is judged alike with known tags and without any,
for every part of a word whose tag is known. -/
theorem TermSet.expansion_agrees [Pattern.Engine] {set : TermSet} (returned : set.Returned)
    {scope : Scope}
    (named : isName scope.wordAlias = true) (corpus : Corpus Object) (choice : Choice Object)
    {tag : String} (tagged : corpus.reach choice (scope.path .partOfSpeech) = .text tag)
    (known : tag ∈ scope.tags.codes) :
    Exists fun truth => corpus.verdict? choice (set.predicate scope) = some truth ∧
      corpus.verdict? choice (set.predicate { scope with tags := .empty }) = some truth := by
  have legible : forall term, term ∈ set.terms -> term.Legible :=
    fun term member => (returned.wellFormed term member).legible
  have bare : isName { scope with tags := .empty }.wordAlias = true := named
  refine ⟨_, TermSet.verdict?_predicate named corpus choice legible, ?_⟩
  rw [TermSet.verdict?_predicate bare corpus choice legible, set.test_getD, set.test_getD]
  congr 2
  refine List.map_congr_left fun term _ => ?_
  exact (term.test_known known tagged).symm

/-- A pattern that occurs in one known tag, one that occurs in none, and a negated
one that occurs in another tag than that of the word. -/
theorem TermSet.expansion_agrees_of_patterns :
    let set : TermSet := ⟨⟨.partOfSpeech, "^v", false, true⟩, [⟨.partOfSpeech, "x", true, true⟩,
      ⟨.partOfSpeech, "n", true, true⟩]⟩
    let scope := Compiler.scopeAt { tags := .ofList ["vb", "n", "nn"] } .wordId 0
    let bare : Scope := { scope with tags := .empty }
    let corpus := Corpus.single "hate" "vb"
    let choice := [("w0", 0), ("wp0", 1)]
    Query.parse "pos(\x7b^v\x7d):!pos(\x7bx\x7d):!pos(\x7bn\x7d)" = .ok ⟨⟨⟨set, []⟩, []⟩, []⟩ ∧
      set.predicate scope =
        "(wp0.lemPos.pos.tag IN ('vb') and wp0.lemPos.pos.tag NOT IN ('n', 'nn'))" ∧
      set.predicate bare = "(match(wp0.lemPos.pos.tag, '^v') <> 0 and " ++
        "NOT (match(wp0.lemPos.pos.tag, 'x') <> 0) and " ++
        "NOT (match(wp0.lemPos.pos.tag, 'n') <> 0))" ∧
      Exists fun truth => corpus.verdict? choice (set.predicate scope) = some truth ∧
        corpus.verdict? choice (set.predicate bare) = some truth := by
  intro set scope bare corpus choice
  have read : (Query.parse "pos(\x7b^v\x7d):!pos(\x7bx\x7d):!pos(\x7bn\x7d)").toOption =
      some ⟨⟨⟨set, []⟩, []⟩, []⟩ := by decide +kernel
  have accepted := Query.parse_eq_ok_of_toOption read
  have returned : set.Returned :=
    .inside (.inside accepted List.mem_cons_self List.mem_cons_self) List.mem_cons_self
  have named : isName scope.wordAlias = true := Compiler.isName_scopeAt 0
  have tagged : corpus.reach choice (scope.path .partOfSpeech) = .text "vb" := by decide +kernel
  have known : "vb" ∈ scope.tags.codes := by decide +kernel
  exact ⟨accepted, by decide +kernel, by decide +kernel,
    TermSet.expansion_agrees returned named corpus choice tagged known⟩

end CorpusQuery
