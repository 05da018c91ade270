import CorpusQuery.Proofs.Json.Reader
import CorpusQuery.Proofs.Store.Lexeme

namespace CorpusQuery
namespace Json

/-!
# Layouts of JSON

The compact and the indented layout differ in the blanks between their parts and
in nothing else.  `Layout` is the choice of these blanks, and `Value.laid` writes a
value with any such choice.  Both layouts are shown to be such writings, so that
what is said of every choice of blanks is said of them.
-/

/-- The blanks of a layout. -/
structure Layout where
  /-- What stands in front of a member and of a closing mark at a level. -/
  gap : Nat -> List Char
  /-- What stands behind a colon. -/
  space : List Char
  gap_blank : forall level, (gap level).all Reader.isSpace = true
  space_blank : space.all Reader.isSpace = true

namespace Value

mutual

/-- A value written in a layout, starting at a level. -/
def laid (layout : Layout) (level : Nat) : Value -> List Char
  | .natural n => (Nat.repr n).toList
  | .text content => (quoted content).toList
  | .list [] => ['[', ']']
  | .list (item :: rest) =>
    '[' :: (laidItems layout (level + 1) (item :: rest) ++ (layout.gap level ++ [']']))
  | .record [] => ['\x7b', '\x7d']
  | .record (field :: rest) =>
    '\x7b' :: (laidFields layout (level + 1) (field :: rest) ++ (layout.gap level ++ ['\x7d']))

def laidItems (layout : Layout) (level : Nat) : List Value -> List Char
  | [] => []
  | [item] => layout.gap level ++ item.laid layout level
  | item :: next :: rest =>
    layout.gap level ++ (item.laid layout level ++ ',' :: laidItems layout level (next :: rest))

def laidFields (layout : Layout) (level : Nat) : List (String × Value) -> List Char
  | [] => []
  | [(name, value)] =>
    layout.gap level ++ ((quoted name).toList ++ ':' :: (layout.space ++ value.laid layout level))
  | (name, value) :: next :: rest =>
    layout.gap level ++ ((quoted name).toList ++ ':' :: (layout.space ++
      (value.laid layout level ++ ',' :: laidFields layout level (next :: rest))))

end

/-- No blanks at all. -/
def compactLayout : Layout where
  gap := fun _ => []
  space := []
  gap_blank := fun _ => rfl
  space_blank := rfl

theorem lineBreak_blank (level : Nat) : (lineBreak level).toList.all Reader.isSpace = true := by
  have spaces : (Text.repeated "  " level).toList.all Reader.isSpace = true := by
    induction level with
    | zero => rfl
    | succ level ih =>
        rw [Text.repeated, String.toList_append, List.all_append, ih]
        rfl
  rw [lineBreak, String.toList_append, List.all_append, spaces]
  rfl

/-- Members on lines of their own. -/
def indentedLayout : Layout where
  gap := fun level => (lineBreak level).toList
  space := [' ']
  gap_blank := lineBreak_blank
  space_blank := rfl

mutual

theorem toList_compact (level : Nat) : (value : Value) ->
    value.compact.toList = value.laid compactLayout level
  | .natural n => by simp [compact, laid]
  | .text content => by simp [compact, laid]
  | .list [] => by simp [compact, compactItems, laid]
  | .list (item :: rest) => by
      simp [compact, laid, toList_compactItems (level + 1) (item :: rest), compactLayout]
  | .record [] => by simp [compact, compactFields, laid]
  | .record (field :: rest) => by
      simp [compact, laid, toList_compactFields (level + 1) (field :: rest), compactLayout]

theorem toList_compactItems (level : Nat) : (items : List Value) ->
    (compactItems items).toList = laidItems compactLayout level items
  | [] => by simp [compactItems, laidItems]
  | [item] => by simp [compactItems, laidItems, toList_compact level item, compactLayout]
  | item :: next :: rest => by
      simp [compactItems, laidItems, toList_compact level item,
        toList_compactItems level (next :: rest), compactLayout]

theorem toList_compactFields (level : Nat) : (fields : List (String × Value)) ->
    (compactFields fields).toList = laidFields compactLayout level fields
  | [] => by simp [compactFields, laidFields]
  | [(name, value)] => by
      simp [compactFields, laidFields, toList_compact level value, compactLayout]
  | (name, value) :: next :: rest => by
      simp [compactFields, laidFields, toList_compact level value,
        toList_compactFields level (next :: rest), compactLayout]

end

mutual

theorem toList_indented (level : Nat) : (value : Value) ->
    (value.indented level).toList = value.laid indentedLayout level
  | .natural n => by simp [indented, laid]
  | .text content => by simp [indented, laid]
  | .list [] => by simp [indented, laid]
  | .list (item :: rest) => by
      simp [indented, laid, toList_indentedItems (level + 1) (item :: rest), indentedLayout]
  | .record [] => by simp [indented, laid]
  | .record (field :: rest) => by
      simp [indented, laid, toList_indentedFields (level + 1) (field :: rest), indentedLayout]

theorem toList_indentedItems (level : Nat) : (items : List Value) ->
    (indentedItems level items).toList = laidItems indentedLayout level items
  | [] => by simp [indentedItems, laidItems]
  | [item] => by simp [indentedItems, laidItems, toList_indented level item, indentedLayout]
  | item :: next :: rest => by
      simp [indentedItems, laidItems, toList_indented level item,
        toList_indentedItems level (next :: rest), indentedLayout]

theorem toList_indentedFields (level : Nat) : (fields : List (String × Value)) ->
    (indentedFields level fields).toList = laidFields indentedLayout level fields
  | [] => by simp [indentedFields, laidFields]
  | [(name, value)] => by
      simp [indentedFields, laidFields, toList_indented level value, indentedLayout]
  | (name, value) :: next :: rest => by
      simp [indentedFields, laidFields, toList_indented level value,
        toList_indentedFields level (next :: rest), indentedLayout]

end

end Value

end Json
end CorpusQuery
