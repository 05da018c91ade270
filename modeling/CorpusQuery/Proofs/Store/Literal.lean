import CorpusQuery.Proofs.Store.Lexeme

namespace CorpusQuery
namespace Store

/-!
# Where literals end

The quote that closes a literal looks like one of its characters, since a quote
inside is written twice.  Which of the two it is shows only at the character
behind it, and a text may end with any number of quotes in front of that place.

Reading from the opening quote finds the end all the same: a lexeme is a text
exactly when the characters are that text in quotes and no quote follows
(`lexeme?_eq_text_iff`).  So there is one way to cut characters into a literal and
what follows it, whatever the texts are.
-/

/-! ## What is read as a literal -/

/-- Whatever is read as the body of a literal has its quotes doubled, and the quote
behind it is no part of a pair. -/
theorem eq_doubled_of_literalBody? {chars body after : List Char}
    (read : literalBody? chars = some (body, after)) :
    chars = Text.Literal.doubled body ++ '\'' :: after ∧ after.head? ≠ some '\'' := by
  fun_induction literalBody? chars generalizing body with
  | case1 => cases read
  | case2 =>
      cases read
      exact ⟨rfl, by decide⟩
  | case3 rest ih =>
      rcases Option.map_eq_some_iff.mp read with ⟨⟨inner, ending⟩, found, same⟩
      cases same
      rcases ih found with ⟨shown, apart⟩
      rw [Text.Literal.doubled, if_pos rfl, shown]
      exact ⟨rfl, apart⟩
  | case4 c rest other =>
      cases read
      refine ⟨rfl, fun quote => other ?_⟩
      exact Option.some.inj quote
  | case5 c rest lone paired ih =>
      rcases Option.map_eq_some_iff.mp read with ⟨⟨inner, ending⟩, found, same⟩
      cases same
      rcases ih found with ⟨shown, apart⟩
      -- A quote here would have closed the literal or been one of two.
      have other : c ≠ '\'' := by
        intro quote
        cases rest with
        | nil => exact lone quote rfl
        | cons next later => exact paired next later quote rfl
      rw [Text.Literal.doubled, if_neg other, shown]
      exact ⟨rfl, apart⟩

/-- Runs of characters without quotes are paths or integers. -/
theorem runValue?_ne_text (run content : String) : runValue? run ≠ some (.text content) := by
  intro found
  unfold runValue? at found
  split at found
  · split at found
    · cases found
    · cases found
  · rcases Option.map_eq_some_iff.mp found with ⟨_, _, same⟩
    cases same

theorem symbol?_ne_value (chars after : List Char) (value : Value) :
    symbol? chars ≠ some (.value value, after) := by
  intro found
  unfold symbol? at found
  split at found <;> cases found

/-- A lexeme is a text exactly if the characters are the text in quotes, without a
further quote behind it. -/
theorem lexeme?_eq_text_iff {chars rest : List Char} {text : String} :
    lexeme? chars = some (.value (.text text), rest) <->
      chars = (Text.quoteLiteral text).toList ++ rest ∧ rest.head? ≠ some '\'' := by
  constructor
  · intro read
    cases chars with
    | nil => cases read
    | cons c more =>
        rw [lexeme?] at read
        split at read
        next quote =>
          rcases Option.map_eq_some_iff.mp read with ⟨⟨body, after⟩, found, same⟩
          cases same
          rcases eq_doubled_of_literalBody? found with ⟨shown, apart⟩
          rw [quoteLiteral_append, String.toList_ofList, quote, shown]
          exact ⟨rfl, apart⟩
        next =>
          split at read
          next =>
            rcases Option.map_eq_some_iff.mp read with ⟨value, found, same⟩
            cases same
            exact absurd found (runValue?_ne_text _ text)
          next => exact absurd read (symbol?_ne_value _ rest _)
  · rintro ⟨rfl, apart⟩
    exact lexeme?_quoteLiteral apart text

/-! ## Literals in their context -/

/-- Characters are a literal and what follows it in one way only. -/
theorem quoteLiteral_append_inj {text other : String} {rest after : List Char}
    (follows : rest.head? ≠ some '\'') (follows' : after.head? ≠ some '\'')
    (same : (Text.quoteLiteral text).toList ++ rest = (Text.quoteLiteral other).toList ++ after) :
    text = other ∧ rest = after := by
  have read := lexeme?_quoteLiteral follows text
  rw [same, lexeme?_quoteLiteral follows' other] at read
  cases read
  exact ⟨rfl, rfl⟩

/-- Unless a quote follows, a literal is read up to its end, as the text that was
quoted, and nothing else is read so.  Hence a literal takes nothing from what follows
and leaves nothing of itself there, and no two texts have the same literal. -/
theorem quoteLiteral_delimited (text : String) (rest : List Char)
    (follows : rest.head? ≠ some '\'') :
    lexeme? ((Text.quoteLiteral text).toList ++ rest) = some (.value (.text text), rest) ∧
      (forall chars, lexeme? chars = some (.value (.text text), rest) ->
        chars = (Text.quoteLiteral text).toList ++ rest) ∧
      (forall other after, after.head? ≠ some '\'' ->
        (Text.quoteLiteral text).toList ++ rest = (Text.quoteLiteral other).toList ++ after ->
          text = other ∧ rest = after) ∧
      Function.Injective Text.quoteLiteral := by
  refine ⟨lexeme?_quoteLiteral follows text, fun chars read => (lexeme?_eq_text_iff.mp read).1,
    fun other after follows' same => quoteLiteral_append_inj follows follows' same, ?_⟩
  intro one other same
  have none : ([] : List Char).head? ≠ some '\'' := by decide
  apply (quoteLiteral_append_inj none none _).1
  rw [same]

/-- A text that ends in quotes, in front of a parenthesis and another literal. -/
theorem quoteLiteral_delimited_of_quotes :
    Text.quoteLiteral "o''" = "'o'''''" ∧
      lexeme? "'o''''') or 'x'".toList = some (.value (.text "o''"), ") or 'x'".toList) := by
  have shown : Text.quoteLiteral "o''" = "'o'''''" := by decide +kernel
  have read := (quoteLiteral_delimited "o''" ") or 'x'".toList (by decide +kernel)).1
  rw [shown, <- String.toList_append] at read
  exact ⟨shown, read⟩

end Store
end CorpusQuery
