import CorpusQuery.Text.Hexadecimal
import CorpusQuery.Text.Quoted

namespace CorpusQuery
namespace Text

/-!
# Codes in quoted text

What all formats with escapes have in common.  A number is read from its digits,
in either case and with zeros in front of them, so that every reader of escapes
that takes four digits for a number reads what is written for a character by its
number.  A text between double quotes is read back as soon as each of its
characters stands for itself or is given by a code; no code has to be known here.
-/

/-! ## Hexadecimal numbers -/

theorem hexNumber?_toDigits (n : Nat) : hexNumber? (Nat.toDigits 16 n) = some n := by
  have single : forall digit, digit < 16 -> hexValue? (Nat.digitChar digit) = some digit := by
    decide
  induction n using Nat.strongRecOn with
  | ind n ih =>
      by_cases small : n < 16
      · rw [Nat.toDigits_of_lt_base small, hexNumber?, List.foldlM_cons, single n small]
        simp
      · have shorter : n / 16 < n := Nat.div_lt_self (by omega) (by decide)
        have front := ih (n / 16) shorter
        have last := single (n % 16) (Nat.mod_lt n (by decide))
        rw [hexNumber?] at front
        rw [Nat.toDigits_of_base_le (by decide) (Nat.le_of_not_lt small), hexNumber?,
          List.foldlM_append, front]
        simp [last, Nat.div_add_mod' n 16]

theorem hexNumber?_replicate_append (zeros : Nat) (digits : List Char) :
    hexNumber? (List.replicate zeros '0' ++ digits) = hexNumber? digits := by
  induction zeros with
  | zero => rfl
  | succ zeros ih => exact ih

theorem hexNumber?_hexDigits (count n : Nat) : hexNumber? (hexDigits count n) = some n := by
  rw [hexDigits, hexNumber?_replicate_append, hexNumber?_toDigits]

theorem hexValue?_toUpper (c : Char) : hexValue? c.toUpper = hexValue? c := by
  by_cases lower : 'a'.val ≤ c.val ∧ c.val ≤ 'z'.val
  · have letters : forall offset : Fin 26,
        hexValue? (Char.ofNat (97 + offset)).toUpper = hexValue? (Char.ofNat (97 + offset)) := by
      decide
    have least : 97 ≤ c.toNat := UInt32.le_iff_toNat_le.mp lower.1
    have most : c.toNat ≤ 122 := UInt32.le_iff_toNat_le.mp lower.2
    have read := letters ⟨c.toNat - 97, by omega⟩
    rw [Nat.add_sub_cancel' least, Char.ofNat_toNat] at read
    exact read
  · have kept : c.toUpper = c := dif_neg lower
    rw [kept]

theorem hexNumber?_map_toUpper (digits : List Char) :
    hexNumber? (digits.map Char.toUpper) = hexNumber? digits := by
  simp [hexNumber?, List.foldlM_map, hexValue?_toUpper]

theorem length_hexDigits {n : Nat} (fits : n < 0x10000) : (hexDigits 4 n).length = 4 := by
  have few : (Nat.toDigits 16 n).length ≤ 4 :=
    (Nat.length_toDigits_le_iff (by decide) (by decide)).mpr fits
  rw [hexDigits, List.length_append, List.length_replicate, Nat.sub_add_cancel few]

theorem leadingHex?_append {count : Nat} {digits : List Char} (length : digits.length = count)
    (rest : List Char) : leadingHex? count (digits ++ rest) = hexNumber? digits := by
  have front : (digits ++ rest).take count = digits := by rw [<- length, List.take_left]
  rw [leadingHex?, front, if_pos length]

/-! ## Escapes -/

namespace Quoted

variable {escape? : List Char -> Option (Char × Nat)} {isPlain : Char -> Bool}

/-- The code behind a backslash stands for a character, whatever follows it. -/
def Encodes (escape? : List Char -> Option (Char × Nat)) (code : List Char) (c : Char) : Prop :=
  forall rest, escape? (code ++ rest) = some (c, code.length)

/-- Four digits behind the letter `u` are read as the number of a character.  What
becomes of surrogates is left open. -/
def ReadsNumbers (escape? : List Char -> Option (Char × Nat)) : Prop :=
  forall rest number, leadingHex? 4 rest = some number -> number < 0xD800 ->
    escape? ('u' :: rest) = some (Char.ofNat number, 5)

theorem encodes_digits (reads : ReadsNumbers escape?) {digits : List Char} {c : Char}
    (length : digits.length = 4) (number : hexNumber? digits = some c.toNat)
    (small : c.toNat < 0xD800) : Encodes escape? ('u' :: digits) c := by
  intro rest
  have found := (leadingHex?_append length rest).trans number
  rw [List.cons_append, reads _ _ found small, Char.ofNat_toNat, List.length_cons, length]

/-- A form shows a character: the character stands for itself, or a backslash and a
code stand for it. -/
def Shows (escape? : List Char -> Option (Char × Nat)) (isPlain : Char -> Bool)
    (form : List Char) (c : Char) : Prop :=
  (form = [c] ∧ c ≠ '"' ∧ c ≠ '\\' ∧ isPlain c = true) ∨
    Exists fun code => form = '\\' :: code ∧ Encodes escape? code c

theorem content?_pass (code rest : List Char) :
    content? escape? isPlain code.length (code ++ rest) = content? escape? isPlain 0 rest := by
  induction code with
  | nil => rfl
  | cons c code ih => exact ih

theorem content?_form {form : List Char} {c : Char} (shows : Shows escape? isPlain form c)
    (rest : List Char) :
    content? escape? isPlain 0 (form ++ rest) = prepend c (content? escape? isPlain 0 rest) := by
  rcases shows with ⟨rfl, quote, backslash, plain⟩ | ⟨code, rfl, encodes⟩
  · simp [content?, quote, backslash, plain]
  · simp [content?, encodes rest, content?_pass]

theorem content?_flatMap {form : Char -> List Char} {text : List Char}
    (shows : forall c, c ∈ text -> Shows escape? isPlain (form c) c) (behind : List Char) :
    content? escape? isPlain 0 (text.flatMap form ++ '"' :: behind) = some (text, behind) := by
  induction text with
  | nil => rfl
  | cons c text ih =>
      have others := ih fun d among => shows d (List.mem_cons_of_mem c among)
      rw [List.flatMap_cons, List.append_assoc, content?_form (shows c List.mem_cons_self), others]
      rfl

end Quoted
end Text
end CorpusQuery
