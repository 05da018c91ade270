import CorpusQuery.Settings

namespace CorpusQuery

/-!
# Settings files

A settings file is named on the command line or, failing that, by a variable
of the environment.  Without either the defaults hold.  A file that is named
must be there and must be a valid document.
-/

/-- What is found under the name of a file. -/
inductive FileContent where
  | missing
  /-- The file is there but cannot be read. -/
  | refused (reason : String)
  | bytes (content : ByteArray)

/-- Why bytes are not accepted as text. -/
def notTextReason : String := "stream did not contain valid UTF-8"

inductive SettingsProblem where
  | unreadable (path reason : String)
  | malformed (path : String)
  deriving DecidableEq, Repr

namespace SettingsProblem

def message : SettingsProblem -> String
  | .unreadable path reason => "IO error reading " ++ path ++ ": " ++ reason
  | .malformed path => "Failed to parse config " ++ path

end SettingsProblem

namespace Settings

/-- The settings in a file. -/
def ofFile (path : String) : FileContent -> Except SettingsProblem Settings
  | .missing => .error (.unreadable path "No such file or directory (os error 2)")
  | .refused reason => .error (.unreadable path reason)
  | .bytes content =>
    match String.fromUTF8? content with
    | none => .error (.unreadable path notTextReason)
    | some document =>
      match ofToml? document with
      | none => .error (.malformed path)
      | some settings => .ok settings

/-- The settings from the file named first, the defaults if none is named. -/
def load (file : String -> FileContent) (given inherited : Option String) :
    Except SettingsProblem Settings :=
  match given <|> inherited with
  | none => .ok {}
  | some path => ofFile path (file path)

end Settings

end CorpusQuery
