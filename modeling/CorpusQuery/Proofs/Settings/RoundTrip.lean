import CorpusQuery.Proofs.Toml.Lines
import CorpusQuery.Settings

namespace CorpusQuery
namespace Settings

/-!
# Settings are read back

Settings that are written as a document are the settings of the document,
whatever characters their texts consist of.  The document is made of two lines
and a section of five, and every key is written, so that no default is asked for.
-/

open Toml (Node Entries Line)

/-- The lines before the section of the names. -/
def topLines (settings : Settings) : List Line :=
  [.ofText "default_shape" settings.defaultShape.name (by decide),
    .ofTexts "pos_codes" settings.tags (by decide)]

/-- The lines of the names of entities. -/
def schemaLines (schema : Schema) : List Line :=
  [.ofText "word" schema.word (by decide), .ofText "word_part" schema.wordPart (by decide),
    .ofText "work" schema.work (by decide), .ofText "work_part" schema.workPart (by decide),
    .ofText "successor" schema.successor (by decide)]

theorem toList_toToml (settings : Settings) :
    settings.toToml.toList =
      Toml.documentChars settings.topLines "schema" (schemaLines settings.schema) := by
  simp [toToml, Toml.writeAssignment, Toml.writeText, Toml.documentChars, topLines, schemaLines,
    Line.chars, Line.ofText, Line.ofTexts]

theorem texts?_array (texts : List String) : texts? (.array (texts.map .text)) = some texts := by
  induction texts with
  | nil => rfl
  | cons text texts ih =>
      have rest : (texts.map Node.text).mapM text? = some texts := ih
      simp [texts?, List.mapM_cons, text?, rest]

theorem schemaOfEntries?_schemaLines (schema : Schema) :
    schemaOfEntries? ((schemaLines schema).map Line.entry) = some schema := by
  simp [schemaLines, Line.ofText, Line.entry, schemaOfEntries?, fieldOr?, Entries.find?, text?]

/-- The entries of the document give back the settings. -/
theorem ofEntries?_lines (settings : Settings) :
    ofEntries? (settings.topLines.map Line.entry ++
      [("schema", .table .header ((schemaLines settings.schema).map Line.entry))]) =
        some settings := by
  have shape : shape? (.text settings.defaultShape.name) = some settings.defaultShape :=
    ResultShape.ofName?_name settings.defaultShape
  have tags := texts?_array settings.tags
  have schema : schema? (.table .header ((schemaLines settings.schema).map Line.entry)) =
      some settings.schema := schemaOfEntries?_schemaLines settings.schema
  simp [topLines, Line.ofText, Line.ofTexts, Line.entry, ofEntries?, fieldOr?, Entries.find?,
    shape, tags, schema]

/-- Settings are what is read from the document that they are written as. -/
theorem ofToml?_toToml (settings : Settings) : ofToml? settings.toToml = some settings := by
  have outer : (settings.topLines.map Line.key ++ ["schema"]).Nodup :=
    show ["default_shape", "pos_codes", "schema"].Nodup by decide
  have inner : ((schemaLines settings.schema).map Line.key).Nodup :=
    show ["word", "word_part", "work", "work_part", "successor"].Nodup by decide
  have read := Toml.read?_document (toList_toToml settings) (by decide) outer inner
  rw [ofToml?, read]
  exact ofEntries?_lines settings

end Settings
end CorpusQuery
