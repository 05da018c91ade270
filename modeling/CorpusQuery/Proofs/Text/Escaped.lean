import CorpusQuery.Proofs.Text.Quoted
import CorpusQuery.Text.Escaped

namespace CorpusQuery
namespace Text
namespace Escaped

/-!
# Escaped text is read in one way

Between quotes a character is shown by itself, by a backslash and a letter, or by a
backslash and its number.  Which characters are shown by themselves is said by
tables of characters, but nothing here depends on them: it is enough that the
backslash and the quote are not.

No form of a character is the beginning of another one, since each can be read
without looking at what follows it (`first?`).  An escaped text therefore tells both
the text and where it ends, whatever stands behind the closing quote.
-/

/-! ## Reading one character -/

/-- The character that a letter behind a backslash stands for. -/
def meaning (letter : Char) : Char :=
  if letter = '0' then '\x00'
  else if letter = 't' then '\t'
  else if letter = 'r' then '\r'
  else if letter = 'n' then '\n'
  else letter

/-- A character by its number in braces, and what follows the closing one. -/
def ofNumber? : List Char -> Option (Char × List Char)
  | [] => none
  | brace :: rest =>
    if brace = '{' then
      (hexNumber? (rest.takeWhile (· ≠ '}'))).map fun code =>
        (Char.ofNat code, (rest.dropWhile (· ≠ '}')).drop 1)
    else none

/-- A character from behind the backslash of its form, and what follows the form. -/
def escape? : List Char -> Option (Char × List Char)
  | [] => none
  | letter :: rest => if letter = 'u' then ofNumber? rest else some (meaning letter, rest)

/-- The character whose form comes first, and what follows the form. -/
def first? : List Char -> Option (Char × List Char)
  | [] => none
  | c :: rest => if c = '\\' then escape? rest else some (c, rest)

theorem ne_brace_of_mem_toDigits {n : Nat} {c : Char} (member : c ∈ Nat.toDigits 16 n) :
    c ≠ '}' := by
  induction n using Nat.strongRecOn with
  | ind n ih =>
      by_cases small : n < 16
      · rw [Nat.toDigits_of_lt_base small] at member
        rw [List.mem_singleton.mp member]
        exact Nat.digitChar_ne '}' rfl
      · rw [Nat.toDigits_of_base_le (by decide) (Nat.le_of_not_lt small)] at member
        rcases List.mem_append.mp member with front | last
        · exact ih (n / 16) (Nat.div_lt_self (by omega) (by decide)) front
        · rw [List.mem_singleton.mp last]
          exact Nat.digitChar_ne '}' rfl

theorem first?_numbered (c : Char) (rest : List Char) :
    first? (numbered c ++ rest) = some (c, rest) := by
  have digits : forall d, d ∈ Nat.toDigits 16 c.toNat -> decide (d ≠ '}') = true := by
    intro d member
    exact decide_eq_true (ne_brace_of_mem_toDigits member)
  have shown : numbered c ++ rest =
      '\\' :: 'u' :: '{' :: (Nat.toDigits 16 c.toNat ++ '}' :: rest) := by
    simp [numbered]
  rw [shown, first?, if_pos rfl, escape?, if_pos rfl, ofNumber?, if_pos rfl,
    List.takeWhile_append_of_pos digits, List.dropWhile_append_of_pos digits]
  simp [hexNumber?_toDigits, Char.ofNat_toNat]

/-- The form of a character is read as that character, whatever follows it. -/
theorem first?_charIn (c : Char) (rest : List Char) :
    first? (charIn '"' c ++ rest) = some (c, rest) := by
  unfold charIn
  split
  next zero => rw [zero]; rfl
  next =>
    split
    next tab => rw [tab]; rfl
    next =>
      split
      next carriage => rw [carriage]; rfl
      next =>
        split
        next newline => rw [newline]; rfl
        next =>
          split
          next special => rcases special with rfl | rfl <;> rfl
          next plain =>
            split
            · exact if_neg fun backslash => plain (Or.inl backslash)
            · exact first?_numbered c rest

/-! ## Reading a text -/

/-- A quote inside a text does not look like the closing one. -/
theorem head?_charIn (c : Char) (rest : List Char) : (charIn '"' c ++ rest).head? ≠ some '"' := by
  intro quote
  rcases List.head?_eq_some_iff.mp quote with ⟨behind, shown⟩
  have read := first?_charIn c rest
  rw [shown, first?, if_neg (by decide)] at read
  cases read
  cases shown

/-- The forms of characters up to a closing quote tell the characters, and where the
quote is. -/
theorem flatMap_charIn_inj {text other rest after : List Char}
    (same : text.flatMap (charIn '"') ++ '"' :: rest = other.flatMap (charIn '"') ++ '"' :: after) :
    text = other ∧ rest = after := by
  induction text generalizing other with
  | nil =>
      cases other with
      | nil => exact ⟨rfl, List.tail_eq_of_cons_eq same⟩
      | cons d other =>
          rw [List.flatMap_cons, List.append_assoc] at same
          exact absurd (congrArg List.head? same).symm (head?_charIn d _)
  | cons c text ih =>
      cases other with
      | nil =>
          rw [List.flatMap_cons, List.append_assoc] at same
          exact absurd (congrArg List.head? same) (head?_charIn c _)
      | cons d other =>
          rw [List.flatMap_cons, List.flatMap_cons, List.append_assoc, List.append_assoc] at same
          have read := first?_charIn c (text.flatMap (charIn '"') ++ '"' :: rest)
          rw [same, first?_charIn] at read
          rcases Prod.mk.inj (Option.some.inj read) with ⟨rfl, later⟩
          rcases ih later.symm with ⟨rfl, ends⟩
          exact ⟨rfl, ends⟩

end Escaped

theorem escapedText_append_inj {text other : String} {rest after : List Char}
    (same : (escapedText text).toList ++ rest = (escapedText other).toList ++ after) :
    text = other ∧ rest = after := by
  have shown : forall (text : String) (rest : List Char), (escapedText text).toList ++ rest =
      '"' :: (text.toList.flatMap (Escaped.charIn '"') ++ '"' :: rest) := by
    intro text rest
    rw [escapedText, String.toList_ofList, List.cons_append, List.cons_append, List.append_assoc]
    rfl
  rw [shown, shown] at same
  rcases Escaped.flatMap_charIn_inj (List.tail_eq_of_cons_eq same) with ⟨chars, ends⟩
  exact ⟨String.toList_injective chars, ends⟩

end Text
end CorpusQuery
