import CorpusQuery.Proofs.Query.Terms
import CorpusQuery.Proofs.Store.Lexeme
import Mathlib.Data.Nat.Digits.Defs

namespace CorpusQuery

/-!
# How comparisons are written

A comparison is split by taking all sign characters off its front, as many as
there are, and by reading the rest as a number.  This module says what is written
instead: one of the few spellings of a relation, blanks, and a number, with more
blanks around the whole.  `Comparison.Written` knows nothing of how the splitting
goes about it.

The greedy front does no harm, because neither a blank nor a number starts with a
sign character.  The blanks between relation and number come off with those at the
end, and a number has none of its own.
-/

/-! ## Blanks around a text -/

namespace Text

/-- No blank at either end. -/
structure Bare (core : List Char) : Prop where
  head : forall c, c ∈ core.head? -> isBlank c = false
  last : forall c, c ∈ core.getLast? -> isBlank c = false

/-- The second text is the first without the blanks around it. -/
structure Surrounds (text core : List Char) : Prop where
  bare : Bare core
  blanks : Exists fun before => Exists fun behind => text = before ++ core ++ behind ∧
    before.all isBlank = true ∧ behind.all isBlank = true

theorem bare_trimChars (text : List Char) : Bare (trimChars text) := by
  constructor
  · intro c first
    have stopped := List.head?_dropWhile_not isBlank (trimChars text)
    rw [dropWhile_trimChars, Option.mem_def.mp first] at stopped
    exact stopped
  · intro c last
    rcases List.getLast?_eq_some_iff.mp last with ⟨front, shown⟩
    have nonempty : trimChars text ≠ [] := by
      rw [shown]
      exact List.append_ne_nil_of_right_ne_nil front (List.cons_ne_nil c [])
    have stopped := List.rdropWhile_last_not isBlank (text.dropWhile isBlank) nonempty
    rw [List.getLast?_eq_some_getLast nonempty, Option.mem_some] at last
    apply Bool.eq_false_iff.mpr
    rw [<- last]
    exact stopped

theorem trimChars_of_surrounds {text core : List Char} (surrounds : Surrounds text core) :
    trimChars text = core := by
  rcases surrounds.blanks with ⟨before, behind, whole, leading, trailing⟩
  have front : (before ++ core ++ behind).dropWhile isBlank =
      (core ++ behind).dropWhile isBlank := by
    rw [List.append_assoc]
    exact List.dropWhile_append_of_pos fun c member => List.all_eq_true.mp leading c member
  rw [whole, trimChars_eq, front]
  cases core with
  | nil =>
      rw [List.nil_append, List.dropWhile_eq_nil_iff.mpr (List.all_eq_true.mp trailing)]
      rfl
  | cons c rest =>
      have visible : ¬ isBlank c = true := Bool.eq_false_iff.mp (surrounds.bare.head c rfl)
      have blank : forall d, d ∈ behind.reverse -> isBlank d = true :=
        fun d member => List.all_eq_true.mp trailing d (List.mem_reverse.mp member)
      rw [List.cons_append, List.dropWhile_cons_of_neg visible, <- List.cons_append,
        List.rdropWhile, List.reverse_append, List.dropWhile_append_of_pos blank]
      apply List.rdropWhile_eq_self_iff.mpr
      intro nonempty
      apply Bool.eq_false_iff.mp
      exact surrounds.bare.last _ (List.getLast?_eq_some_getLast nonempty)

theorem trimChars_eq_iff {text core : List Char} :
    trimChars text = core <-> Surrounds text core := by
  constructor
  · rintro rfl
    refine ⟨bare_trimChars text, text.takeWhile isBlank,
      (text.dropWhile isBlank).rtakeWhile isBlank, ?_, List.all_takeWhile, ?_⟩
    · rw [List.append_assoc, trimChars_eq, List.rdropWhile_append_rtakeWhile,
        List.takeWhile_append_dropWhile]
    · exact List.all_eq_true.mpr fun c member => List.mem_rtakeWhile_imp member
  · exact trimChars_of_surrounds

theorem last_of_dropWhile {test : Char -> Bool} {text : List Char} {c : Char}
    (last : c ∈ (text.dropWhile test).getLast?) : c ∈ text.getLast? := by
  have whole : text.takeWhile test ++ text.dropWhile test = text := List.takeWhile_append_dropWhile
  rw [<- whole, List.getLast?_append, Option.mem_def.mp last]
  rfl

/-- Without a blank at the end only those at the start are removed. -/
theorem trimChars_of_last {text : List Char}
    (visible : forall c, c ∈ text.getLast? -> isBlank c = false) :
    trimChars text = text.dropWhile isBlank := by
  rw [trimChars_eq]
  apply List.rdropWhile_eq_self_iff.mpr
  intro nonempty
  apply Bool.eq_false_iff.mp
  apply visible
  exact last_of_dropWhile (List.getLast?_eq_some_getLast nonempty)

/-! ## Numbers -/

/-- At least one digit, and nothing else. -/
structure IsDigits (chars : List Char) : Prop where
  nonempty : chars ≠ []
  digits : forall c, c ∈ chars -> '0' ≤ c ∧ c ≤ '9'

/-- The value of digits by their places, of which the last one counts ones. -/
def placeValue (digits : List Char) : Nat :=
  Nat.ofDigits 10 (digits.reverse.map fun c => c.toNat - '0'.toNat)

/-- A number with an optional sign, and its value. -/
inductive Signed : List Char -> Int -> Prop where
  | unsigned {digits : List Char} (run : IsDigits digits) : Signed digits (placeValue digits)
  | plus {digits : List Char} (run : IsDigits digits) : Signed ('+' :: digits) (placeValue digits)
  | minus {digits : List Char} (run : IsDigits digits) :
      Signed ('-' :: digits) (-(placeValue digits : Int))

theorem ofDigitChars_eq_placeValue (digits : List Char) :
    Nat.ofDigitChars 10 digits 0 = placeValue digits := by
  induction digits using List.reverseRecOn with
  | nil => rfl
  | append_singleton front c ih =>
      rw [Nat.ofDigitChars, List.foldl_append] at *
      rw [ih, placeValue, placeValue, List.reverse_append, List.map_append]
      change _ = Nat.ofDigits 10 (_ :: _)
      rw [Nat.ofDigits_cons, Nat.add_comm]
      rfl

theorem isDigit_iff {c : Char} : isDigit c = true <-> '0' ≤ c ∧ c ≤ '9' := by
  rw [isDigit, Bool.and_eq_true, decide_eq_true_iff, decide_eq_true_iff]

theorem IsDigits.exists_head {chars : List Char} (run : IsDigits chars) :
    Exists fun c => Exists fun rest => chars = c :: rest ∧ isDigit c = true := by
  cases chars with
  | nil => exact absurd rfl run.nonempty
  | cons c rest => exact ⟨c, rest, rfl, isDigit_iff.mpr (run.digits c List.mem_cons_self)⟩

theorem natural?_eq_some_iff {chars : List Char} {n : Nat} :
    natural? chars = some n <-> IsDigits chars ∧ placeValue chars = n := by
  rw [natural?, ofDigitChars_eq_placeValue]
  constructor
  · intro read
    split at read
    · cases read
    next digits =>
      rw [Bool.or_eq_true, not_or, List.isEmpty_iff, Bool.not_eq_true', Bool.not_eq_false] at digits
      have each := List.all_eq_true.mp digits.2
      exact ⟨⟨digits.1, fun c member => isDigit_iff.mp (each c member)⟩, Option.some.inj read⟩
  · rintro ⟨run, rfl⟩
    have all : chars.all isDigit = true :=
      List.all_eq_true.mpr fun c member => isDigit_iff.mpr (run.digits c member)
    rw [all, List.isEmpty_eq_false_iff.mpr run.nonempty]
    rfl

theorem integer?_eq_some_iff {chars : List Char} {value : Int} :
    integer? chars = some value <-> Signed chars value := by
  constructor
  · intro read
    unfold integer? at read
    split at read
    all_goals
      rcases Option.map_eq_some_iff.mp read with ⟨n, digits, rfl⟩
      rcases natural?_eq_some_iff.mp digits with ⟨run, rfl⟩
    · exact .plus run
    · exact .minus run
    · exact .unsigned run
  · intro signed
    cases signed with
    | plus run => rw [integer?, natural?_eq_some_iff.mpr ⟨run, rfl⟩]; rfl
    | minus run => rw [integer?, natural?_eq_some_iff.mpr ⟨run, rfl⟩]; rfl
    | unsigned run =>
        have read := natural?_eq_some_iff.mpr ⟨run, rfl⟩
        rcases run.exists_head with ⟨c, rest, rfl, digit⟩
        have plus : c ≠ '+' := Store.ne_of_isDigit digit (by decide)
        have minus : c ≠ '-' := Store.ne_of_isDigit digit (by decide)
        simp [integer?, plus, minus, read]

theorem isBlank_of_isDigit {c : Char} (digit : isDigit c = true) : isBlank c = false := by
  rcases isDigit_iff.mp digit with ⟨least, most⟩
  have low : 48 ≤ c.toNat := UInt32.le_iff_toNat_le.mp (Char.le_def.mp least)
  have high : c.toNat ≤ 57 := UInt32.le_iff_toNat_le.mp (Char.le_def.mp most)
  simp only [isBlank, Bool.or_eq_false_iff, Bool.and_eq_false_imp, beq_eq_false_iff_ne,
    decide_eq_true_eq, decide_eq_false_iff_not]
  omega

theorem IsDigits.isBlank_last {chars : List Char} (run : IsDigits chars) (front : List Char)
    {c : Char} (last : c ∈ (front ++ chars).getLast?) : isBlank c = false := by
  rw [List.getLast?_append_of_ne_nil front run.nonempty] at last
  exact isBlank_of_isDigit (isDigit_iff.mpr (run.digits c (List.mem_of_getLast? last)))

/-- A number has no blank at its ends. -/
theorem Signed.bare {chars : List Char} {value : Int} (signed : Signed chars value) :
    Bare chars := by
  cases signed with
  | unsigned run =>
      refine ⟨fun c first => ?_, fun c last => run.isBlank_last [] last⟩
      rcases run.exists_head with ⟨d, rest, rfl, digit⟩
      cases first
      exact isBlank_of_isDigit digit
  | plus run =>
      refine ⟨fun c first => ?_, fun c last => run.isBlank_last ['+'] last⟩
      cases first
      decide
  | minus run =>
      refine ⟨fun c first => ?_, fun c last => run.isBlank_last ['-'] last⟩
      cases first
      decide

theorem Signed.ne_nil {chars : List Char} {value : Int} (signed : Signed chars value) :
    chars ≠ [] := by
  cases signed with
  | unsigned run => exact run.nonempty
  | plus run => exact List.cons_ne_nil _ _
  | minus run => exact List.cons_ne_nil _ _

end Text

/-! ## Relations -/

/-- The spellings of a relation.  Without a sign the numbers must be equal. -/
def Relation.spellings : Relation -> List String
  | .equal => ["", "=", "=="]
  | .notEqual => ["<>", "!="]
  | .less => ["<"]
  | .lessOrEqual => ["<="]
  | .greater => [">"]
  | .greaterOrEqual => [">="]

namespace Comparison

theorem relation?_of_mem {relation : Relation} {spelling : String}
    (known : spelling ∈ relation.spellings) : relation? spelling.toList = some relation := by
  revert spelling
  cases relation <;> decide

theorem mem_of_relation? {signs : List Char} {relation : Relation}
    (read : relation? signs = some relation) : String.ofList signs ∈ relation.spellings := by
  unfold relation? at read
  split at read <;> cases read <;> decide

theorem isSignChar_of_mem {relation : Relation} {spelling : String}
    (known : spelling ∈ relation.spellings) : spelling.toList.all isSignChar = true := by
  revert spelling
  cases relation <;> decide

/-- A spelling of the relation, blanks, and a number of 64 bits. -/
inductive Written (relation : Relation) (value : Int) : List Char -> Prop where
  | intro {spelling : String} {gap number : List Char} (known : spelling ∈ relation.spellings)
      (blank : gap.all Text.isBlank = true) (signed : Text.Signed number value)
      (range : -9223372036854775808 ≤ value ∧ value ≤ 9223372036854775807) :
      Written relation value (spelling.toList ++ gap ++ number)

theorem isSignChar_cases {c : Char} (sign : isSignChar c = true) :
    c = '<' ∨ c = '>' ∨ c = '=' ∨ c = '!' := by
  simpa [isSignChar, or_assoc] using sign

theorem isBlank_of_isSignChar {c : Char} (sign : isSignChar c = true) : Text.isBlank c = false := by
  rcases isSignChar_cases sign with rfl | rfl | rfl | rfl <;> decide

theorem isDigit_of_isSignChar {c : Char} (sign : isSignChar c = true) : Text.isDigit c = false := by
  rcases isSignChar_cases sign with rfl | rfl | rfl | rfl <;> decide

/-- Neither blanks nor a number start with a sign character. -/
theorem isSignChar_head {gap number : List Char} (blank : gap.all Text.isBlank = true) {value : Int}
    (signed : Text.Signed number value) {c : Char} (first : c ∈ (gap ++ number).head?) :
    isSignChar c = false := by
  apply Bool.eq_false_iff.mpr
  intro sign
  cases gap with
  | cons d gap =>
      cases first
      rw [List.all_cons, isBlank_of_isSignChar sign] at blank
      cases blank
  | nil =>
      cases signed with
      | plus run => cases first; cases sign
      | minus run => cases first; cases sign
      | unsigned run =>
          rcases run.exists_head with ⟨d, rest, rfl, digit⟩
          cases first
          rw [isDigit_of_isSignChar sign] at digit
          cases digit

/-- The sign characters at the front are cut off where they end. -/
theorem cut_signs {signs tail : List Char} (all : signs.all isSignChar = true)
    (stops : forall c, c ∈ tail.head? -> isSignChar c = false) :
    (signs ++ tail).takeWhile isSignChar = signs ∧
      (signs ++ tail).dropWhile isSignChar = tail := by
  have each := List.all_eq_true.mp all
  rw [List.takeWhile_append_of_pos each, List.dropWhile_append_of_pos each]
  cases tail with
  | nil => exact ⟨List.append_nil signs, rfl⟩
  | cons c rest =>
      have stop : ¬ isSignChar c = true := Bool.eq_false_iff.mp (stops c rfl)
      rw [List.takeWhile_cons_of_neg stop, List.dropWhile_cons_of_neg stop]
      exact ⟨List.append_nil signs, rfl⟩

theorem integer64?_eq_some_iff {chars : List Char} {value : Int} :
    Text.integer64? chars = some value <->
      Text.Signed chars value ∧ -9223372036854775808 ≤ value ∧ value ≤ 9223372036854775807 := by
  rw [Text.integer64?, Option.filter_eq_some_iff, Text.integer?_eq_some_iff, Text.fits64,
    Bool.and_eq_true, decide_eq_true_iff, decide_eq_true_iff]
  apply and_congr_right
  intro _
  omega

theorem splitChars?_eq_some_iff {text : List Char} {relation : Relation} {value : Int} :
    splitChars? text = some (relation, value) <->
      relation? ((Text.trimChars text).takeWhile isSignChar) = some relation ∧
        Text.integer64? (Text.trimChars ((Text.trimChars text).dropWhile isSignChar)) =
          some value := by
  simp only [splitChars?, Option.bind_eq_bind, Option.bind_eq_some_iff]
  constructor
  · rintro ⟨_, signs, _, number, same⟩
    cases same
    exact ⟨signs, number⟩
  · rintro ⟨signs, number⟩
    exact ⟨relation, signs, value, number, rfl⟩

theorem written_of_split {core : List Char} (bare : Text.Bare core) {relation : Relation}
    {value : Int} (signs : relation? (core.takeWhile isSignChar) = some relation)
    (number : Text.integer64? (Text.trimChars (core.dropWhile isSignChar)) = some value) :
    Written relation value core := by
  have behind : forall c, c ∈ (core.dropWhile isSignChar).getLast? -> Text.isBlank c = false := by
    intro c last
    exact bare.last c (Text.last_of_dropWhile last)
  rw [Text.trimChars_of_last behind] at number
  rcases integer64?_eq_some_iff.mp number with ⟨signed, range⟩
  have blank : ((core.dropWhile isSignChar).takeWhile Text.isBlank).all Text.isBlank = true :=
    List.all_takeWhile
  have written := Written.intro (mem_of_relation? signs) blank signed range
  rw [String.toList_ofList, List.append_assoc, List.takeWhile_append_dropWhile,
    List.takeWhile_append_dropWhile] at written
  exact written

theorem split_of_written {core : List Char} {relation : Relation} {value : Int}
    (written : Written relation value core) :
    relation? (core.takeWhile isSignChar) = some relation ∧
      Text.integer64? (Text.trimChars (core.dropWhile isSignChar)) = some value := by
  cases written with
  | @intro spelling gap number known blank signed range =>
      have cut := cut_signs (isSignChar_of_mem known) fun c => isSignChar_head blank signed
      have trimmed : Text.trimChars (gap ++ number) = number := by
        apply Text.trimChars_of_surrounds
        exact ⟨signed.bare, gap, [], (List.append_nil _).symm, blank, rfl⟩
      rw [List.append_assoc, cut.1, cut.2, trimmed]
      exact ⟨relation?_of_mem known, integer64?_eq_some_iff.mpr ⟨signed, range⟩⟩

/-- A number directly behind a spelling has no blank around it. -/
theorem bare_append {relation : Relation} {spelling : String}
    (known : spelling ∈ relation.spellings) {number : List Char} {value : Int}
    (signed : Text.Signed number value) : Text.Bare (spelling.toList ++ number) := by
  constructor
  · intro c first
    have signs := isSignChar_of_mem known
    cases shown : spelling.toList with
    | nil =>
        rw [shown] at first
        exact signed.bare.head c first
    | cons d rest =>
        rw [shown] at first signs
        cases first
        exact isBlank_of_isSignChar (List.all_eq_true.mp signs c List.mem_cons_self)
  · intro c last
    rw [List.getLast?_append_of_ne_nil _ signed.ne_nil] at last
    exact signed.bare.last c last

theorem sign_mem_spellings (relation : Relation) : relation.sign ∈ relation.spellings := by
  cases relation <;> decide

theorem splitChars?_iff_written {text : List Char} {relation : Relation} {value : Int} :
    splitChars? text = some (relation, value) <->
      Exists fun core => Text.Surrounds text core ∧ Written relation value core := by
  rw [splitChars?_eq_some_iff]
  constructor
  · rintro ⟨signs, number⟩
    exact ⟨_, Text.trimChars_eq_iff.mp rfl,
      written_of_split (Text.bare_trimChars text) signs number⟩
  · rintro ⟨core, surrounds, written⟩
    rw [Text.trimChars_of_surrounds surrounds]
    exact split_of_written written

end Comparison

/-- A text is a comparison exactly when, without the blanks around it, it is a
spelling of a relation, blanks, and a number of 64 bits.  The sign and the decimal
text that the store is given are one, and they fail only for a number that is too
large. -/
theorem splitComparison?_eq_some_iff :
    (forall (text : String) (relation : Relation) (value : Int),
      splitComparison? text = some (relation, value) <->
        Exists fun core => Text.Surrounds text.toList core ∧
          Comparison.Written relation value core) ∧
    forall (relation : Relation) (value : Int),
      splitComparison? (relation.sign ++ Text.integerText value) = some (relation, value) <->
        -9223372036854775808 ≤ value ∧ value ≤ 9223372036854775807 := by
  refine ⟨fun text relation value => Comparison.splitChars?_iff_written, ?_⟩
  intro relation value
  rw [splitComparison?, Comparison.splitChars?_iff_written]
  constructor
  · rintro ⟨core, _, written⟩
    cases written with
    | intro known blank signed range => exact range
  · intro range
    have known := Comparison.sign_mem_spellings relation
    have signed := Text.integer?_eq_some_iff.mp (Store.integer?_integerText value)
    have blank : ([] : List Char).all Text.isBlank = true := rfl
    have written := Comparison.Written.intro known blank signed range
    rw [List.append_nil] at written
    rw [String.toList_append]
    refine ⟨_, ⟨Comparison.bare_append known signed, [], [], ?_, rfl, rfl⟩, written⟩
    rw [List.nil_append, List.append_nil]

example :
    splitComparison? " <>\t-009223372036854775808 " = some (.notEqual, -9223372036854775808) ∧
      splitComparison? "9223372036854775808" = none ∧ splitComparison? "=>3" = none := by
  decide +kernel

end CorpusQuery
