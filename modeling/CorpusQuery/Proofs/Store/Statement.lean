import CorpusQuery.Proofs.Store.Lexeme
import CorpusQuery.Selection

namespace CorpusQuery
namespace Store

/-!
# Statements of the store

The second step of reading.  A statement says what it returns, which sources it
binds to which aliases, and which of its alternatives must hold: a list of lists
of conditions, one of the lists with all its members.  A statement without
conditions has the one alternative that asks for nothing.

A condition is an atom, or alternatives in parentheses with or without `NOT`
before them.  `and` binds tighter than `or`, so alternatives are lists of
conditions joined by `and`, joined by `or`.

Every tree is written as lexemes in one way, and the reader gives back the tree
from its lexemes.
-/

inductive Atom where
  | compare (left : Value) (relation : Relation) (right : Value)
  | member (negated : Bool) (path : List String) (values : List Value)
  /-- Whether a property is unset, or set if negated. -/
  | null (negated : Bool) (path : List String)
  /-- The pattern is found in a property. -/
  | found (path : List String) (pattern : String)
  deriving DecidableEq, Repr

inductive Formula where
  | atom (single : Atom)
  /-- Alternatives in parentheses. -/
  | group (negated : Bool) (alternatives : List (List Formula))

structure Statement where
  distinct : Bool
  /-- The path of what is returned. -/
  result : List String
  sources : List Source
  alternatives : List (List Formula)

/-- The text of a literal. -/
def Value.literals : Value -> List String
  | .text quoted => [quoted]
  | .path _ | .number _ => []

/-- The texts of the literals of an atom, in order. -/
def Atom.literals : Atom -> List String
  | .compare left _ right => left.literals ++ right.literals
  | .member _ _ values => values.flatMap Value.literals
  | .null _ _ => []
  | .found _ pattern => [pattern]

/-- The alias that a value starts from. -/
def Value.aliases : Value -> List String
  | .path (first :: _) => [first]
  | .path [] | .number _ | .text _ => []

/-- The aliases that an atom mentions. -/
def Atom.aliases : Atom -> List String
  | .compare left _ right => left.aliases ++ right.aliases
  | .member _ path values => (Value.path path).aliases ++ values.flatMap Value.aliases
  | .null _ path | .found path _ => (Value.path path).aliases

def Formula.aliases : Formula -> List String
  | .atom single => single.aliases
  | .group _ alternatives =>
    alternatives.flatMap fun conditions => conditions.flatMap fun condition => condition.aliases
decreasing_by
  have outer := List.sizeOf_lt_of_mem ‹conditions ∈ alternatives›
  have inner := List.sizeOf_lt_of_mem ‹condition ∈ conditions›
  simp only [Formula.group.sizeOf_spec]
  omega

/-- The aliases that alternatives mention. -/
def aliasesOf (alternatives : List (List Formula)) : List String :=
  alternatives.flatMap fun conditions => conditions.flatMap Formula.aliases

theorem Formula.aliases_group (negated : Bool) (alternatives : List (List Formula)) :
    (Formula.group negated alternatives).aliases = aliasesOf alternatives := by
  rw [Formula.aliases, aliasesOf]

def Statement.aliases (statement : Statement) : List String :=
  (Value.path statement.result).aliases ++ aliasesOf statement.alternatives

/-! ## Writing -/

def Atom.lexemes : Atom -> List Lexeme
  | .compare left relation right => [.value left, .relation relation, .value right]
  | .member negated path values =>
    .value (.path path) :: (if negated then [keyword "NOT", keyword "IN"] else [keyword "IN"]) ++
      .opening :: [.comma].intercalate (values.map fun value => [.value value]) ++ [.closing]
  | .null negated path =>
    .value (.path path) :: keyword "is" ::
      if negated then [keyword "not", keyword "null"] else [keyword "null"]
  | .found path pattern =>
    [keyword "match", .opening, .value (.path path), .comma, .value (.text pattern), .closing,
      .relation .notEqual, .value (.number 0)]

def Formula.lexemes : Formula -> List Lexeme
  | .atom single => single.lexemes
  | .group negated alternatives =>
    (if negated then [keyword "NOT"] else []) ++
      .opening :: [keyword "or"].intercalate (alternatives.map fun conditions =>
        [keyword "and"].intercalate (conditions.map fun condition => condition.lexemes)) ++
      [.closing]
decreasing_by
  have outer := List.sizeOf_lt_of_mem ‹conditions ∈ alternatives›
  have inner := List.sizeOf_lt_of_mem ‹condition ∈ conditions›
  simp only [Formula.group.sizeOf_spec]
  omega

def alternativeLexemes (alternatives : List (List Formula)) : List Lexeme :=
  [keyword "or"].intercalate (alternatives.map fun conditions =>
    [keyword "and"].intercalate (conditions.map Formula.lexemes))

def sourceLexemes (source : Source) : List Lexeme :=
  [keyword source.entity, keyword source.name]

def whereLexemes : List (List Formula) -> List Lexeme
  | [[]] => []
  | alternatives => keyword "where" :: alternativeLexemes alternatives

def Statement.lexemes (statement : Statement) : List Lexeme :=
  keyword "select" :: (if statement.distinct then [keyword "distinct"] else []) ++
    .value (.path statement.result) :: keyword "from" ::
      ([.comma].intercalate (statement.sources.map sourceLexemes) ++
        whereLexemes statement.alternatives)

theorem Formula.lexemes_group (negated : Bool) (alternatives : List (List Formula)) :
    (Formula.group negated alternatives).lexemes =
      (if negated then [keyword "NOT"] else []) ++
        .opening :: (alternativeLexemes alternatives ++ [.closing]) := by
  rw [Formula.lexemes, alternativeLexemes]
  simp

/-! ## Reading -/

abbrev Reader (α : Type) := List Lexeme -> Option (α × List Lexeme)

/-- At most so many members, with a separator between neighbours. -/
def separatedUpTo {α : Type} (separator : Lexeme) (member : Reader α) : Nat -> Reader (List α)
  | 0, _ => none
  | bound + 1, lexemes => do
    let (first, rest) ← member lexemes
    if rest.head? = some separator then
      let (more, rest) ← separatedUpTo separator member bound rest.tail
      return (first :: more, rest)
    else return ([first], rest)

/-- One or more members with a separator between neighbours. -/
def separated {α : Type} (separator : Lexeme) (member : Reader α) : Reader (List α) :=
  fun lexemes => separatedUpTo separator member lexemes.length lexemes

/-- What stands before a closing parenthesis. -/
def closed {α : Type} (inner : Reader α) : Reader α := fun lexemes =>
  match inner lexemes with
  | some (item, .closing :: rest) => some (item, rest)
  | _ => none

def value : Reader Value
  | .value value :: rest => some (value, rest)
  | _ => none

def members (negated : Bool) (path : List String) : Reader Atom := fun lexemes => do
  let (values, rest) ← closed (separated .comma value) lexemes
  return (.member negated path values, rest)

def atom : Reader Atom
  | .value left :: .relation relation :: .value right :: rest =>
    some (.compare left relation right, rest)
  | .value (.path ["match"]) :: .opening :: .value (.path path) :: .comma ::
      .value (.text pattern) :: .closing :: .relation .notEqual :: .value (.number 0) :: rest =>
    some (.found path pattern, rest)
  | .value (.path path) :: .value (.path ["is"]) :: .value (.path ["null"]) :: rest =>
    some (.null false path, rest)
  | .value (.path path) :: .value (.path ["is"]) :: .value (.path ["not"]) ::
      .value (.path ["null"]) :: rest =>
    some (.null true path, rest)
  | .value (.path path) :: .value (.path ["IN"]) :: .opening :: rest => members false path rest
  | .value (.path path) :: .value (.path ["NOT"]) :: .value (.path ["IN"]) :: .opening :: rest =>
    members true path rest
  | _ => none

def alternatives (condition : Reader Formula) : Reader (List (List Formula)) :=
  separated (keyword "or") (separated (keyword "and") condition)

/-- A condition with parentheses nested at most so deep. -/
def condition : Nat -> Reader Formula
  | 0, _ => none
  | depth + 1, lexemes =>
    match lexemes with
    | .opening :: rest => do
      let (inner, rest) ← closed (alternatives (condition depth)) rest
      return (.group false inner, rest)
    | .value (.path ["NOT"]) :: .opening :: rest => do
      let (inner, rest) ← closed (alternatives (condition depth)) rest
      return (.group true inner, rest)
    | lexemes => do
      let (atom, rest) ← atom lexemes
      return (.atom atom, rest)

/-- Alternatives and nothing after them.  No text nests deeper than it is
long. -/
def alternatives? (lexemes : List Lexeme) : Option (List (List Formula)) :=
  match alternatives (condition lexemes.length) lexemes with
  | some (inner, []) => some inner
  | _ => none

def head : Reader (Bool × List String)
  | .value (.path ["select"]) :: .value (.path ["distinct"]) :: .value (.path result) ::
      .value (.path ["from"]) :: rest =>
    some ((true, result), rest)
  | .value (.path ["select"]) :: .value (.path result) :: .value (.path ["from"]) :: rest =>
    some ((false, result), rest)
  | _ => none

def source : Reader Source
  | .value (.path [entity]) :: .value (.path [name]) :: rest => some (⟨entity, name⟩, rest)
  | _ => none

/-- What stands after the sources. -/
def conditions? : List Lexeme -> Option (List (List Formula))
  | [] => some [[]]
  | .value (.path ["where"]) :: rest => alternatives? rest
  | _ => none

def statement? (lexemes : List Lexeme) : Option Statement := do
  let ((distinct, result), rest) ← head lexemes
  let (sources, rest) ← separated .comma source rest
  let alternatives ← conditions? rest
  return ⟨distinct, result, sources, alternatives⟩

/-- The statement that a text is read as. -/
def read? (text : String) : Option Statement :=
  (lexemes? text.toList).bind statement?

/-- The alternatives that a text is read as by itself. -/
def readCondition? (text : String) : Option (List (List Formula)) :=
  (lexemes? text.toList).bind alternatives?

/-! ## Lists with separators -/

/-- What follows starts with none of the lexemes. -/
def Stops (stops rest : List Lexeme) : Prop :=
  forall stop, stop ∈ stops -> rest.head? ≠ some stop

/-- The reader takes the lexemes for the item, and leaves what follows. -/
def Reads {α : Type} (stops : List Lexeme) (reader : Reader α) (lexemes : List Lexeme) (item : α) :
    Prop :=
  forall rest, Stops stops rest -> reader (lexemes ++ rest) = some (item, rest)

theorem length_le_intercalate {separator : Lexeme} {parts : List (List Lexeme)}
    (nonempty : forall part, part ∈ parts -> part ≠ []) :
    parts.length ≤ ([separator].intercalate parts).length := by
  induction parts with
  | nil => exact Nat.zero_le _
  | cons first rest ih =>
      have here := List.length_pos_iff.mpr (nonempty first List.mem_cons_self)
      have later := ih fun part member => nonempty part (List.mem_cons_of_mem first member)
      cases rest with
      | nil =>
          rw [List.intercalate_singleton]
          exact here
      | cons next rest =>
          simp only [List.intercalate_cons_cons, List.length_append, List.length_cons] at later ⊢
          omega

theorem length_le_intercalate_of_mem {separator : Lexeme} {parts : List (List Lexeme)}
    {part : List Lexeme} (member : part ∈ parts) :
    part.length ≤ ([separator].intercalate parts).length := by
  induction parts with
  | nil => cases member
  | cons first rest ih =>
      cases rest with
      | nil =>
          refine Nat.le_of_eq (congrArg List.length ?_)
          rw [List.mem_singleton.mp member, List.intercalate_singleton]
      | cons next rest =>
          simp only [List.intercalate_cons_cons, List.length_append] at ih ⊢
          rcases List.mem_cons.mp member with here | later
          · rw [here]
            omega
          · have within := ih later
            omega

theorem reads_separatedUpTo {α : Type} {stops : List Lexeme} {separator : Lexeme}
    (other : separator ∉ stops) {member : Reader α} {write : α -> List Lexeme} {items : List α}
    (nonempty : items ≠ []) {bound : Nat} (enough : items.length ≤ bound)
    (each : forall item, item ∈ items -> Reads stops member (write item) item) :
    Reads (separator :: stops) (separatedUpTo separator member bound)
      ([separator].intercalate (items.map write)) items := by
  intro rest follows
  induction items generalizing bound with
  | nil => exact absurd rfl nonempty
  | cons first more ih =>
      cases bound with
      | zero => cases enough
      | succ bound =>
          have here := each first List.mem_cons_self
          cases more with
          | nil =>
              have stop := follows separator List.mem_cons_self
              have read := here rest fun stop among => follows stop (List.mem_cons_of_mem _ among)
              rw [List.map_singleton, List.intercalate_singleton, separatedUpTo, read]
              simp [stop]
          | cons next more =>
              have later := ih (List.cons_ne_nil next more) (Nat.le_of_succ_le_succ enough)
                fun item among => each item (List.mem_cons_of_mem first among)
              simp only [List.map_cons, List.intercalate_cons_cons, List.append_assoc] at later ⊢
              -- The member stops at the separator because its own stops exclude it.
              have read := here ([separator] ++
                ([separator].intercalate (write next :: more.map write) ++ rest)) <| by
                  intro stop among same
                  cases same
                  exact other among
              rw [separatedUpTo, read]
              simp [later]

theorem Reads.separated {α : Type} {stops : List Lexeme} {separator : Lexeme}
    (other : separator ∉ stops) {member : Reader α} {write : α -> List Lexeme} {items : List α}
    (nonempty : items ≠ [])
    (each : forall item, item ∈ items -> write item ≠ [] ∧ Reads stops member (write item) item) :
    Reads (separator :: stops) (separated separator member)
      ([separator].intercalate (items.map write)) items := by
  intro rest follows
  refine reads_separatedUpTo other nonempty ?_ (fun item among => (each item among).2) rest follows
  have bound : (items.map write).length ≤ ([separator].intercalate (items.map write)).length := by
    apply length_le_intercalate
    intro part member
    rcases List.mem_map.mp member with ⟨item, among, same⟩
    rw [<- same]
    exact (each item among).1
  rw [List.length_map] at bound
  rw [List.length_append]
  omega

theorem Reads.closed {α : Type} {stops : List Lexeme} {reader : Reader α} {lexemes : List Lexeme}
    {item : α} (read : Reads stops reader lexemes item) (other : Lexeme.closing ∉ stops) :
    Reads [] (closed reader) (lexemes ++ [.closing]) item := by
  intro rest _
  have inner := read (.closing :: rest) <| by
    intro stop among same
    cases same
    exact other among
  rw [List.append_assoc, List.singleton_append, Store.closed, inner]

theorem stops_nil (stops : List Lexeme) : Stops stops [] := by
  intro _ _ same
  cases same

/-! ## Trees from their lexemes -/

/-- No list that is written with separators is empty. -/
def Atom.Proper : Atom -> Prop
  | .member _ _ values => values ≠ []
  | .compare _ _ _ | .null _ _ | .found _ _ => True

inductive Formula.Proper : Formula -> Prop where
  | atom {single : Atom} (proper : single.Proper) : Proper (.atom single)
  | group {negated : Bool} {alternatives : List (List Formula)} (nonempty : alternatives ≠ [])
      (filled : forall conditions, conditions ∈ alternatives -> conditions ≠ [])
      (each : forall conditions, conditions ∈ alternatives ->
        forall condition, condition ∈ conditions -> Proper condition) :
      Proper (.group negated alternatives)

theorem Atom.lexemes_ne_nil (atom : Atom) : atom.lexemes ≠ [] := by
  cases atom <;> exact List.cons_ne_nil _ _

theorem Formula.lexemes_ne_nil (formula : Formula) : formula.lexemes ≠ [] := by
  cases formula with
  | atom single =>
      rw [Formula.lexemes]
      exact single.lexemes_ne_nil
  | group negated alternatives =>
      rw [Formula.lexemes_group]
      exact List.append_ne_nil_of_right_ne_nil _ (List.cons_ne_nil _ _)

theorem conditionLexemes_ne_nil {conditions : List Formula} (filled : conditions ≠ []) :
    [keyword "and"].intercalate (conditions.map Formula.lexemes) ≠ [] := by
  cases conditions with
  | nil => exact absurd rfl filled
  | cons first more =>
      have here : first.lexemes ∈ (first :: more).map Formula.lexemes := List.mem_cons_self
      have some := List.length_pos_iff.mpr first.lexemes_ne_nil
      exact List.length_pos_iff.mp (Nat.lt_of_lt_of_le some (length_le_intercalate_of_mem here))

theorem reads_members (negated : Bool) (path : List String) {values : List Value}
    (nonempty : values ≠ []) :
    Reads [] (members negated path)
      ([.comma].intercalate (values.map fun value => [.value value]) ++ [.closing])
      (.member negated path values) := by
  have each : Reads [.comma] (separated .comma value)
      ([.comma].intercalate (values.map fun value => [.value value])) values :=
    Reads.separated List.not_mem_nil nonempty fun item _ => ⟨List.cons_ne_nil _ _, fun _ _ => rfl⟩
  intro rest follows
  rw [members, each.closed (by decide) rest follows]
  rfl

theorem reads_atom {single : Atom} (proper : single.Proper) :
    Reads [] atom single.lexemes single := by
  intro rest follows
  cases single with
  | compare left relation right => rfl
  | member negated path values =>
      have read := reads_members negated path proper rest follows
      cases negated <;> exact read
  | null negated path => cases negated <;> rfl
  | found path pattern => rfl

theorem reads_alternatives {member : Reader Formula} {inner : List (List Formula)}
    (nonempty : inner ≠ [])
    (filled : forall conditions, conditions ∈ inner -> conditions ≠ [])
    (each : forall conditions, conditions ∈ inner -> forall condition, condition ∈ conditions ->
      Reads [] member condition.lexemes condition) :
    Reads [keyword "or", keyword "and"] (alternatives member) (alternativeLexemes inner) inner := by
  refine Reads.separated (by decide) nonempty ?_
  intro conditions among
  refine ⟨conditionLexemes_ne_nil (filled conditions among), ?_⟩
  refine Reads.separated List.not_mem_nil (filled conditions among) ?_
  intro condition member
  exact ⟨condition.lexemes_ne_nil, each conditions among condition member⟩

theorem length_le_alternativeLexemes {inner : List (List Formula)} {conditions : List Formula}
    (among : conditions ∈ inner) {condition : Formula} (member : condition ∈ conditions) :
    condition.lexemes.length ≤ (alternativeLexemes inner).length := by
  have first : condition.lexemes.length ≤
      ([keyword "and"].intercalate (conditions.map Formula.lexemes)).length :=
    length_le_intercalate_of_mem (List.mem_map_of_mem member)
  have second : ([keyword "and"].intercalate (conditions.map Formula.lexemes)).length ≤
      (alternativeLexemes inner).length :=
    length_le_intercalate_of_mem (List.mem_map.mpr ⟨conditions, among, rfl⟩)
  exact Nat.le_trans first second

theorem Atom.lexemes_unopened (single : Atom) (rest : List Lexeme) :
    (forall after, single.lexemes ++ rest ≠ .opening :: after) ∧
      forall after, single.lexemes ++ rest ≠ .value (.path ["NOT"]) :: .opening :: after := by
  cases single with
  | compare left relation right => exact ⟨nofun, nofun⟩
  | member negated path values => cases negated <;> exact ⟨nofun, nofun⟩
  | null negated path => exact ⟨nofun, nofun⟩
  | found path pattern => exact ⟨nofun, by simp [Atom.lexemes, keyword]⟩

theorem condition_atom {single : Atom} (proper : single.Proper) (depth : Nat) (rest : List Lexeme) :
    condition (depth + 1) (single.lexemes ++ rest) = some (.atom single, rest) := by
  have read := reads_atom proper rest fun _ among => absurd among List.not_mem_nil
  have unopened := single.lexemes_unopened rest
  rw [condition, read]
  · rfl
  · exact unopened.1
  · exact unopened.2

/-- A proper condition is read back from its lexemes, whatever follows. -/
theorem reads_condition {formula : Formula} (proper : formula.Proper) :
    forall depth, formula.lexemes.length ≤ depth ->
      Reads [] (condition depth) formula.lexemes formula := by
  induction proper with
  | @atom single proper =>
      intro depth enough rest _
      rw [Formula.lexemes] at enough ⊢
      cases depth with
      | zero =>
          exact absurd (List.length_eq_zero_iff.mp (Nat.le_zero.mp enough)) single.lexemes_ne_nil
      | succ depth => exact condition_atom proper depth rest
  | @group negated inner nonempty filled _ ih =>
      intro depth enough rest follows
      rw [Formula.lexemes_group] at enough ⊢
      cases depth with
      | zero => simp at enough
      | succ depth =>
          -- The group's own parentheses pay for the level that its contents go down.
          have within : (alternativeLexemes inner).length ≤ depth := by
            simp only [List.length_append, List.length_cons] at enough
            omega
          have read := reads_alternatives nonempty filled fun conditions among condition member =>
            ih conditions among condition member depth
              (Nat.le_trans (length_le_alternativeLexemes among member) within)
          have closing := read.closed (by decide) rest follows
          simp only [List.append_assoc, List.singleton_append] at closing
          cases negated <;> simp [keyword, condition, closing]

/-- Alternatives of proper conditions. -/
structure ProperAlternatives (inner : List (List Formula)) : Prop where
  nonempty : inner ≠ []
  filled : forall conditions, conditions ∈ inner -> conditions ≠ []
  each : forall conditions, conditions ∈ inner ->
    forall condition, condition ∈ conditions -> condition.Proper

theorem ProperAlternatives.group {inner : List (List Formula)} (proper : ProperAlternatives inner)
    (negated : Bool) : (Formula.group negated inner).Proper :=
  .group proper.nonempty proper.filled proper.each

theorem ProperAlternatives.ofConditions {conditions : List Formula} (filled : conditions ≠ [])
    (each : forall condition, condition ∈ conditions -> condition.Proper) :
    ProperAlternatives [conditions] := by
  refine ⟨List.cons_ne_nil _ _, ?_, ?_⟩
  · intro others among
    rw [List.mem_singleton.mp among]
    exact filled
  · intro others among
    rw [List.mem_singleton.mp among]
    exact each

theorem ProperAlternatives.single {formula : Formula} (proper : formula.Proper) :
    ProperAlternatives [[formula]] := by
  refine ofConditions (List.cons_ne_nil _ _) ?_
  intro condition member
  rw [List.mem_singleton.mp member]
  exact proper

theorem alternatives?_lexemes {inner : List (List Formula)} (proper : ProperAlternatives inner) :
    alternatives? (alternativeLexemes inner) = some inner := by
  have read := reads_alternatives proper.nonempty proper.filled
    fun conditions among condition member =>
      reads_condition (proper.each conditions among condition member)
        (alternativeLexemes inner).length (length_le_alternativeLexemes among member)
  have whole := read [] (stops_nil _)
  rw [List.append_nil] at whole
  rw [alternatives?, whole]

structure Statement.Proper (statement : Statement) : Prop where
  sourced : statement.sources ≠ []
  selected : statement.result ≠ ["distinct"]
  conditioned : statement.alternatives = [[]] ∨ ProperAlternatives statement.alternatives

theorem reads_head (distinct : Bool) {result : List String} (selected : result ≠ ["distinct"])
    (rest : List Lexeme) :
    head (keyword "select" :: (if distinct then [keyword "distinct"] else []) ++
      .value (.path result) :: keyword "from" :: rest) = some ((distinct, result), rest) := by
  cases distinct with
  | true => rfl
  | false =>
      simp only [keyword, Bool.false_eq_true, if_false, List.cons_append, List.nil_append]
      rw [head]
      exact fun _ same _ => selected same

theorem reads_sources {sources : List Source} (sourced : sources ≠ []) :
    Reads [.comma] (separated .comma source) ([.comma].intercalate (sources.map sourceLexemes))
      sources :=
  Reads.separated List.not_mem_nil sourced fun _ _ => ⟨List.cons_ne_nil _ _, fun _ _ => rfl⟩

theorem whereLexemes_cases {inner : List (List Formula)}
    (proper : inner = [[]] ∨ ProperAlternatives inner) :
    conditions? (whereLexemes inner) = some inner ∧ Stops [.comma] (whereLexemes inner) := by
  by_cases unconditioned : inner = [[]]
  · rw [unconditioned]
    exact ⟨rfl, stops_nil _⟩
  · have conditioned := proper.resolve_left unconditioned
    have written : whereLexemes inner = keyword "where" :: alternativeLexemes inner := by
      rw [whereLexemes]
      exact unconditioned
    rw [written]
    refine ⟨alternatives?_lexemes conditioned, ?_⟩
    intro stop among same
    cases same
    cases List.mem_singleton.mp among

/-- A proper statement is read back from its lexemes. -/
theorem statement?_lexemes {statement : Statement} (proper : statement.Proper) :
    statement? statement.lexemes = some statement := by
  rcases whereLexemes_cases proper.conditioned with ⟨conditioned, follows⟩
  have sourced := reads_sources proper.sourced _ follows
  rw [statement?, Statement.lexemes, reads_head statement.distinct proper.selected]
  simp [sourced, conditioned]

theorem read?_of_lexes {text : String} {statement : Statement}
    (lexes : Lexes text statement.lexemes) (proper : statement.Proper) :
    read? text = some statement := by
  rw [read?, lexemes?_of_lexes lexes, Option.bind_some, statement?_lexemes proper]

theorem readCondition?_of_lexes {text : String} {formula : Formula}
    (lexes : Lexes text formula.lexemes) (proper : formula.Proper) :
    readCondition? text = some [[formula]] := by
  have written : formula.lexemes = alternativeLexemes [[formula]] := by
    simp [alternativeLexemes]
  rw [readCondition?, lexemes?_of_lexes lexes, Option.bind_some, written,
    alternatives?_lexemes (.single proper)]

end Store
end CorpusQuery
