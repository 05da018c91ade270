import CorpusQuery.Command.Outcome

namespace CorpusQuery
namespace Program

/-!
# The program

The outer layer reads the file and the input that the arguments call for, and
prints the outcome.
-/

/-- What is found under the name of a file. -/
def readContent (path : String) : IO FileContent := do
  try
    return .bytes (← IO.FS.readBinFile path)
  catch problem =>
    match problem with
    | .noFileOrDirectory .. => return .missing
    | other => return .refused (toString other)

/-- The rest of a stream behind what was read before. -/
partial def readRest (stream : IO.FS.Stream) (before : ByteArray) : IO ByteArray := do
  let chunk ← stream.read 65536
  if chunk.isEmpty then return before else readRest stream (before ++ chunk)

/-- The standard input, none if it is a terminal. -/
def readInput : IO (Option ByteArray) := do
  let input ← IO.getStdin
  if ← input.isTty then return none
  return some (← readRest input ByteArray.empty)

/-- Read what the arguments call for. -/
def surroundingsFor (arguments : List String) : IO Surroundings := do
  let inherited ← IO.getEnv "CQL_CONFIG"
  match Arguments.read arguments with
  | .error _ => return ⟨fun _ => .missing, inherited, none⟩
  | .ok invocation =>
    let content ← match invocation.settingsPath <|> inherited with
      | some path => readContent path
      | none => pure .missing
    let input ← if invocation.command.readsInput then readInput else pure none
    return ⟨fun _ => content, inherited, input⟩

end Program
end CorpusQuery

def main (arguments : List String) : IO UInt32 := do
  let outcome := CorpusQuery.Outcome.ofArguments
    (← CorpusQuery.Program.surroundingsFor arguments) arguments
  IO.print outcome.output
  IO.eprint outcome.errors
  return outcome.exitCode.toUInt32
