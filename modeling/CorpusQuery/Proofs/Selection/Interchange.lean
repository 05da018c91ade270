import CorpusQuery.Proofs.Json.ReadBack
import CorpusQuery.Selection.Printer

namespace CorpusQuery

/-!
# Fragments are handed on faithfully

Whoever reads the printed JSON gets the fragments back, from either layout and
whatever characters their texts consist of.  Records are taken apart by the names of
their fields, as a reader does that knows nothing of their order; a name that occurs
twice is refused.
-/

namespace Json
namespace Document

def natural? : Document -> Option Nat
  | .number mantissa exponent =>
    if 0 ≤ mantissa ∧ exponent = 0 then some mantissa.toNat else none
  | _ => none

def text? : Document -> Option String
  | .text content => some content
  | _ => none

def listOf? {Item : Type} (item? : Document -> Option Item) : Document -> Option (List Item)
  | .list items => items.mapM item?
  | _ => none

/-- The value of the only field with a name. -/
def field? (name : String) : Document -> Option Document
  | .record fields =>
    match fields.filter fun field => field.1 = name with
    | [(_, value)] => some value
    | _ => none
  | _ => none

/-- A list is taken apart as its items are. -/
theorem listOf?_document {Item : Type} {item? : Document -> Option Item} {value : Item -> Value}
    (recovers : forall item, item? (value item).document = some item) (items : List Item) :
    listOf? item? (Value.list (items.map value)).document = some items := by
  rw [Value.document, Value.documents_eq_map, List.map_map, listOf?]
  induction items with
  | nil => rfl
  | cons item items ih =>
      rw [List.map_cons, List.mapM_cons, Function.comp_apply, recovers, ih]
      rfl

end Document
end Json

namespace Fragment

/-- The fragment that a record describes. -/
def ofDocument? (document : Json.Document) : Option Fragment := do
  let phrase ← (← document.field? "phrase").natural?
  let shape ← ResultShape.ofName? (← (← document.field? "shape").text?)
  let wordAliases ← (← document.field? "word_aliases").listOf? Json.Document.text?
  let partAliases ← (← document.field? "part_aliases").listOf? Json.Document.text?
  let text ← (← document.field? "text").text?
  return { phrase, shape, wordAliases, partAliases, text }

theorem ofDocument?_toJson (fragment : Fragment) :
    ofDocument? fragment.toJson.document = some fragment := by
  have texts : forall texts : List String,
      (Json.Value.list (texts.map .text)).document.listOf? Json.Document.text? = some texts :=
    Json.Document.listOf?_document fun text => by simp [Json.Value.document, Json.Document.text?]
  have words := texts fragment.wordAliases
  have parts := texts fragment.partAliases
  rw [Json.Value.document] at words parts
  have shape := ResultShape.ofName?_name fragment.shape
  simp [toJson, Json.Value.document, Json.Value.documentFields, ofDocument?, Json.Document.field?,
    Json.Document.natural?, Json.Document.text?, words, parts, shape]

/-- Both layouts of the printed JSON are read as one document, and the document
describes the fragments that were printed, in their order. -/
theorem print_json_reads (fragments : List Fragment) :
    Exists fun document =>
      Json.read? (print .json fragments) = some document ∧
        Json.read? (print .prettyJson fragments) = some document ∧
          document.listOf? ofDocument? = some fragments :=
  ⟨(Json.Value.list (fragments.map toJson)).document, Json.read?_compact _,
    Json.read?_indented _ 0, Json.Document.listOf?_document ofDocument?_toJson fragments⟩

end Fragment
end CorpusQuery
