import CorpusQuery.Command

namespace CorpusQuery

/-!
# Command-line arguments

Arguments are options and operands.  A long option is written with two dashes,
its value behind an equals sign or as the next argument.  Short options are
letters behind one dash; several may share it, and the value of the last one
may follow directly, behind an equals sign, or as the next argument.  Two dashes
alone end the options.  The first operand is the name of the command; what
follows it belongs to the command.
-/

namespace Arguments

inductive Switch where
  | settings
  | verbose
  | version
  | outline
  | shape
  | filter
  | json
  | pretty
  deriving DecidableEq, Repr

namespace Switch

def long : Switch -> String
  | .settings => "config"
  | .verbose => "verbose"
  | .version => "version"
  | .outline => "tree"
  | .shape => "shape"
  | .filter => "filter"
  | .json => "json"
  | .pretty => "pretty"

def letter? : Switch -> Option Char
  | .settings => some 'c'
  | .verbose => some 'v'
  | .version => some 'V'
  | .outline => none
  | .shape => some 's'
  | .filter => some 'f'
  | .json => none
  | .pretty => some 'p'

def takesValue : Switch -> Bool
  | .settings | .shape | .filter => true
  | _ => false

/-- Whether a value is acceptable. -/
def accepts : Switch -> String -> Bool
  | .settings, value => value != ""
  | .shape, value => (ResultShape.ofText? value).isSome
  | _, _ => true

end Switch

/-- Why the arguments lead to no command. -/
inductive Interruption where
  /-- They are not well formed. -/
  | usage
  /-- The version is asked for, whatever follows. -/
  | version
  deriving DecidableEq, Repr

/-- The options and operands of one level, the name of the command being the
border between the levels. -/
structure Given where
  options : List (Switch × String) := []
  operands : List String := []

namespace Given

def value? (given : Given) (switch : Switch) : Option String :=
  (given.options.find? fun option => option.1 = switch).map Prod.snd

def has (given : Given) (switch : Switch) : Bool :=
  (given.value? switch).isSome

/-- Add an option.  None may be given twice. -/
def add (given : Given) (switch : Switch) (value : String) : Except Interruption Given :=
  if switch = .version then .error .version
  else if given.has switch || !switch.accepts value then .error .usage
  else .ok { given with options := given.options ++ [(switch, value)] }

def addOperand (given : Given) (operand : String) : Given :=
  { given with operands := given.operands ++ [operand] }

end Given

/-- A value directly behind a letter may have an equals sign before it. -/
def attachedValue : List Char -> String
  | '=' :: value => String.ofList value
  | value => String.ofList value

/-- Read letters behind one dash.  The result names the option that still
needs a value. -/
def readLetters (known : List Switch) (given : Given) :
    List Char -> Except Interruption (Given × Option Switch)
  | [] => .ok (given, none)
  | c :: rest =>
    match known.find? fun switch => switch.letter? = some c with
    | none => .error .usage
    | some switch =>
      if switch.takesValue then
        if rest.isEmpty then .ok (given, some switch)
        else (given.add switch (attachedValue rest)).map (·, none)
      else
        match given.add switch "" with
        | .error interruption => .error interruption
        | .ok given => readLetters known given rest

/-- Read a long option from behind its dashes. -/
def readLong (known : List Switch) (given : Given) (body : List Char) :
    Except Interruption (Given × Option Switch) :=
  let name := String.ofList (body.takeWhile (· != '='))
  match known.find? fun switch => switch.long = name, body.dropWhile (· != '=') with
  | none, _ => .error .usage
  | some switch, [] =>
    if switch.takesValue then .ok (given, some switch) else (given.add switch "").map (·, none)
  | some switch, _ :: value =>
    if switch.takesValue then (given.add switch (String.ofList value)).map (·, none)
    else .error .usage

/-- Read the arguments of one level.  An option may wait for its value, which
cannot look like an option itself.  With `upToOperand` reading stops at the
first operand, which is left with the arguments behind it. -/
def readLevel (known : List Switch) (upToOperand : Bool) :
    Option Switch -> Given -> List String -> Except Interruption (Given × List String)
  | none, given, [] => .ok (given, [])
  | some _, _, [] => .error .usage
  | waiting, given, argument :: rest =>
    match argument.toList, waiting with
    | '-' :: _ :: _, some _ => .error .usage
    | ['-', '-'], none =>
      if upToOperand then .error .usage
      else .ok (rest.foldl Given.addOperand given, [])
    | '-' :: '-' :: body, none =>
      match readLong known given body with
      | .error interruption => .error interruption
      | .ok (given, waiting) => readLevel known upToOperand waiting given rest
    | '-' :: c :: letters, none =>
      match readLetters known given (c :: letters) with
      | .error interruption => .error interruption
      | .ok (given, waiting) => readLevel known upToOperand waiting given rest
    | _, some switch =>
      match given.add switch argument with
      | .error interruption => .error interruption
      | .ok given => readLevel known upToOperand none given rest
    | _, none =>
      if upToOperand then .ok (given, argument :: rest)
      else readLevel known upToOperand none (given.addOperand argument) rest

/-- A command and the options that hold for every command. -/
structure Invocation where
  settingsPath : Option String
  verbose : Bool
  command : Command
  deriving DecidableEq, Repr

/-- Options that may stand before and behind the name of the command. -/
def shared : List Switch := [.settings, .verbose]

/-- The options of a command by its name, none if there is no such command. -/
def ownSwitches? : String -> Option (List Switch)
  | "check" => some [.outline]
  | "compile" => some [.shape, .filter, .json, .pretty]
  | "attributes" | "docs" | "doc" => some []
  | _ => none

def formatOf (given : Given) : OutputFormat :=
  if given.has .json then (if given.has .pretty then .prettyJson else .json) else .lines

/-- The command with its options and operands. -/
def command? (name : String) (given : Given) : Option Command :=
  match name, given.operands with
  | "check", [] => some (.check none (viewOf given))
  | "check", [query] => some (.check (some query) (viewOf given))
  | "compile", [] => some (compileOf none)
  | "compile", [query] => some (compileOf (some query))
  | "attributes", [] => some .attributes
  | "docs", [] => some .contents
  | "doc", [page] => some (.page page)
  | _, _ => none
where
  viewOf (given : Given) : CheckView := if given.has .outline then .outline else .canonical
  compileOf (query : Option String) : Command :=
    .compile query ((given.value? .shape).bind ResultShape.ofText?) (given.value? .filter)
      (formatOf given)

/-- Read all arguments.  Of a shared option given on both sides of the name,
the later value holds. -/
def read (arguments : List String) : Except Interruption Invocation := do
  let (before, rest) ← readLevel (.version :: shared) true none {} arguments
  match rest with
  | [] => .error .usage
  | name :: rest =>
    match ownSwitches? name with
    | none => .error .usage
    | some own =>
      let (behind, _) ← readLevel (own ++ shared) false none {} rest
      match command? name behind with
      | none => .error .usage
      | some command =>
        return {
          settingsPath := behind.value? .settings <|> before.value? .settings
          verbose := before.has .verbose || behind.has .verbose
          command := command }

end Arguments

end CorpusQuery
