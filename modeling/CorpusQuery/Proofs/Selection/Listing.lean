import CorpusQuery.Pattern.Standard
import CorpusQuery.Proofs.Selection.Branches
import Mathlib.Data.List.Sort

namespace CorpusQuery

/-!
# Listed codes

The codes of the store come as a list, in any order and with repetitions, and are
kept as a set.  A pattern on the part of speech is tried on the set, and those in
which it occurs are listed.  So the written list is increasing, names every such
code once, and depends on nothing but which codes there are.
-/

/-! ## Sets of codes -/

/-- Texts compared by the codes of their characters, the first difference
deciding. -/
def Text.Precedes (one other : String) : Prop :=
  List.Lex (· < ·) (one.toList.map Char.toNat) (other.toList.map Char.toNat)

theorem Text.lex_toNat {one other : List Char} (less : List.Lex (· < ·) one other) :
    List.Lex (· < ·) (one.map Char.toNat) (other.map Char.toNat) := by
  induction less with
  | nil => exact .nil
  | rel first => exact .rel (UInt32.lt_iff_toNat_lt.mp (Char.lt_def.mp first))
  | cons _ ih => exact .cons ih

theorem Text.precedes_of_lt {one other : String} (less : one < other) : Precedes one other :=
  lex_toNat (String.lt_iff.mp less)

namespace TagSet

theorem mem_foldl_insert {codes : List String} {set : TagSet} {code : String} :
    code ∈ (codes.foldl insert set).codes <-> code ∈ set.codes ∨ code ∈ codes := by
  induction codes generalizing set with
  | nil => simp
  | cons first rest ih =>
      rw [List.foldl_cons, ih, List.mem_cons, <- or_assoc]
      apply or_congr_left
      exact mem_insertInto.trans or_comm

theorem mem_ofList {codes : List String} {code : String} :
    code ∈ (ofList codes).codes <-> code ∈ codes := by
  rw [ofList, mem_foldl_insert]
  exact or_iff_right List.not_mem_nil

theorem isEmpty_ofList {codes : List String} (supplied : codes ≠ []) :
    (ofList codes).isEmpty = false := by
  rcases List.exists_mem_of_ne_nil codes supplied with ⟨code, member⟩
  rw [isEmpty, List.isEmpty_eq_false_iff]
  exact List.ne_nil_of_mem (mem_ofList.mpr member)

/-- Increasing codes are determined by which codes there are. -/
theorem ext_mem {one other : TagSet}
    (same : forall code, code ∈ one.codes <-> code ∈ other.codes) : one = other := by
  rcases one with ⟨codes, increasing⟩
  rcases other with ⟨codes', increasing'⟩
  have equal : codes = codes' := increasing.eq_of_mem_iff increasing' same
  cases equal
  rfl

theorem ofList_congr {one other : List String} (same : forall code, code ∈ one <-> code ∈ other) :
    ofList one = ofList other := by
  apply ext_mem
  intro code
  rw [mem_ofList, mem_ofList, same code]

end TagSet

/-! ## Written lists -/

namespace Condition

/-- The written condition lists the codes that pass a test: each of them once, in
increasing order and as a literal, and no other code.  Only where there are none
it never holds, or is left out if it is negated. -/
structure ListsExactly (negated : Bool) (field : String) (codes : List String)
    (found : String -> Bool) (written : String) : Prop where
  listed : Exists fun values : List String => values.Pairwise Text.Precedes ∧
    (forall code, values.count code = if code ∈ codes ∧ found code = true then 1 else 0) ∧
      written = listing negated field (values.map Text.quoteLiteral)
  nowhere : written = (if negated then "" else "1 = 0") <->
    forall code, code ∈ codes -> found code = false

/-- A list behind a field is neither empty nor the condition that never holds, which
starts with a digit. -/
theorem listing_eq_iff {negated : Bool} {field : String} {values : List String}
    (named : field.toList.head? = some 'w') :
    listing negated field values = (if negated then "" else "1 = 0") <-> values = [] := by
  cases values with
  | nil => exact iff_of_true rfl rfl
  | cons value more =>
      refine iff_of_false (fun same => ?_) (List.cons_ne_nil value more)
      have first := congrArg (fun text : String => text.toList.head?) same
      cases negated <;> simp [listing, named] at first

end Condition

theorem TagSet.count_filter (codes : List String) (found : String -> Bool) (code : String) :
    ((ofList codes).codes.filter found).count code =
      if code ∈ codes ∧ found code = true then 1 else 0 := by
  have single : ((ofList codes).codes.filter found).Nodup :=
    (ofList codes).increasing.nodup.filter _
  have member : code ∈ (ofList codes).codes.filter found <-> code ∈ codes ∧ found code = true := by
    rw [List.mem_filter, mem_ofList]
  split
  next passes => exact List.count_eq_one_of_mem single (member.mpr passes)
  next fails => exact List.count_eq_zero.mpr fun present => fails (member.mp present)

namespace Term

theorem head_field_partOfSpeech (scope : Scope) :
    (scope.field .partOfSpeech).toList.head? = some 'w' := by
  simp [Scope.field, Scope.expand, Attribute.entry, Scope.expandChars]

variable [Pattern.Engine]

theorem predicate_of_tags {codes : List String} (supplied : codes ≠ []) {term : Term}
    (tested : term.attr = .partOfSpeech) (marked : term.isPattern = true)
    (filled : term.isEmpty = false) {pattern : Pattern}
    (compiled : Pattern.compile? term.text = some pattern) {scope : Scope}
    (tags : scope.tags = .ofList codes) :
    term.predicate scope = Condition.listing term.negated (scope.field .partOfSpeech)
      (((TagSet.ofList codes).codes.filter pattern.occursIn).map Text.quoteLiteral) := by
  have domain : term.attr.domain = .externalCodes := by
    rw [tested]
    rfl
  rw [predicate_of_filled filled, conditionOn, domain, tested]
  simp only [marked, tags, TagSet.isEmpty_ofList supplied, if_true, Bool.false_eq_true, if_false]
  exact render_membership compiled _ _ .literal

theorem lists_tags {codes : List String} (supplied : codes ≠ []) {term : Term}
    (tested : term.attr = .partOfSpeech) (marked : term.isPattern = true)
    (filled : term.isEmpty = false) {pattern : Pattern}
    (compiled : Pattern.compile? term.text = some pattern) {scope : Scope}
    (tags : scope.tags = .ofList codes) :
    Condition.ListsExactly term.negated (scope.field .partOfSpeech) codes pattern.occursIn
      (term.predicate scope) := by
  have written := predicate_of_tags supplied tested marked filled compiled tags
  constructor
  · refine ⟨_, ?_, TagSet.count_filter codes pattern.occursIn, written⟩
    exact ((TagSet.ofList codes).increasing.filter _).imp Text.precedes_of_lt
  · have none : (TagSet.ofList codes).codes.filter pattern.occursIn = [] <->
        forall code, code ∈ codes -> pattern.occursIn code = false := by
      rw [List.filter_eq_nil_iff]
      apply forall_congr'
      intro code
      rw [TagSet.mem_ofList, Bool.not_eq_true]
    rw [written, Condition.listing_eq_iff (head_field_partOfSpeech scope), List.map_eq_nil_iff,
      none]

end Term

namespace Compiler

/-- A pattern on the part of speech lists the supplied codes in which it occurs,
and two lists of the same codes are no different for any query. -/
theorem codes_listed [Pattern.Engine] :
    (forall (codes : List String), codes ≠ [] -> forall (term : Term),
      term.attr = .partOfSpeech -> term.isPattern = true -> term.isEmpty = false ->
        forall (pattern : Pattern), Pattern.compile? term.text = some pattern ->
          forall (scope : Scope), scope.tags = .ofList codes ->
            Condition.ListsExactly term.negated (scope.field .partOfSpeech) codes pattern.occursIn
              (term.predicate scope)) ∧
    forall (one other : List String), (forall code, code ∈ one <-> code ∈ other) ->
      forall (schema : Schema) (query : Query) (shape : ResultShape) (filter : Option String),
        compile ⟨schema, .ofList one⟩ query shape filter =
          compile ⟨schema, .ofList other⟩ query shape filter := by
  constructor
  · intro codes supplied term tested marked filled pattern compiled scope tags
    exact Term.lists_tags supplied tested marked filled compiled tags
  · intro one other same schema query shape filter
    rw [TagSet.ofList_congr same]

/-- A code with a quote in it, codes that differ in one letter outside ASCII, the
empty code and a repeated one, and the same codes in another order. -/
theorem codes_listed_of_letters :
    let codes := ["v'1", "n", "", "ñ", "v'1", "nn"]
    let other := ["nn", "v'1", "ñ", "n", "n", ""]
    let term : Term := ⟨.partOfSpeech, "^[^v]?n*$", false, true⟩
    let scope : Scope := ⟨"w0", 0, .throughWord, .ofList codes⟩
    let query : Query := ⟨⟨⟨⟨term, []⟩, []⟩, []⟩, []⟩
    term.predicate scope = "wp0.lemPos.pos.tag IN ('', 'n', 'nn', 'ñ')" ∧
      (Exists fun pattern => Pattern.compile? term.text = some pattern ∧
        Condition.ListsExactly false (scope.field .partOfSpeech) codes pattern.occursIn
          (term.predicate scope)) ∧
      compile ⟨{}, .ofList codes⟩ query .wordId none =
        compile ⟨{}, .ofList other⟩ query .wordId none := by
  intro codes other term scope query
  have valid : Pattern.isValid term.text = true := by decide +kernel
  rcases Option.isSome_iff_exists.mp valid with ⟨pattern, compiled⟩
  have same : forall code, code ∈ codes <-> code ∈ other := by
    intro code
    simp only [codes, other, List.mem_cons, List.not_mem_nil, or_false]
    tauto
  refine ⟨by decide +kernel, ⟨pattern, compiled, ?_⟩, ?_⟩
  · exact codes_listed.1 codes (by decide) term rfl rfl (by decide) pattern compiled scope rfl
  · exact codes_listed.2 codes other same {} query .wordId none

end Compiler

end CorpusQuery
