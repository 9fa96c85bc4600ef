import Railroad.Command

namespace Railroad

structure OptionForm where
  name : String
  valued : Bool

structure CommandLine where
  arguments : List String := []
  options : List (String × String) := []

def splitOption (word : String) : String × Option String :=
  let cs := word.toList
  let name := String.ofList (cs.takeWhile (· ≠ '='))
  match cs.dropWhile (· ≠ '=') with
  | [] => (name, none)
  | _ :: value => (name, some (String.ofList value))

namespace CommandLine

def addArgument (word : String) (l : CommandLine) : CommandLine :=
  { l with arguments := word :: l.arguments }

def addOption (name value : String) (l : CommandLine) : CommandLine :=
  { l with options := (name, value) :: l.options }

def value? (l : CommandLine) (name : String) : Option String := l.options.reverse.lookup name

/-- Reads a command line; `none` if it has an unknown option, an option lacks its value or a switch
has one.  If `early` is set, everything from the first argument on is argument. -/
def ofWords? (forms : List OptionForm) (early : Bool) : List String → Option CommandLine
  | [] => some {}
  | word :: rest =>
    if word = "--" then some ⟨rest, []⟩
    else if word.startsWith "-" && word ≠ "-" then
      let (name, value) := splitOption word
      match forms.find? (·.name = name), value, rest with
      | some ⟨_, false⟩, none, rest => (ofWords? forms early rest).map (addOption name "")
      | some ⟨_, true⟩, some v, rest => (ofWords? forms early rest).map (addOption name v)
      | some ⟨_, true⟩, none, v :: rest => (ofWords? forms early rest).map (addOption name v)
      | _, _, _ => none
    else if early then some ⟨word :: rest, []⟩
    else (ofWords? forms early rest).map (addArgument word)

end CommandLine

inductive CommandName where
  | checkGrammars
  | showDiagrams
  | exportDiagrams
  deriving DecidableEq, Repr

instance : Named CommandName where
  family := "command"
  all := [.checkGrammars, .showDiagrams, .exportDiagrams]
  name
    | .checkGrammars => "check"
    | .showDiagrams => "show"
    | .exportDiagrams => "export"

inductive Request where
  | checkGrammars (path : Path)
  | showDiagrams (path : Path) (connectors : Bool)
  | exportDiagrams (path : Path) (directory : Option Path) (policy : Option ErrorPolicy)

namespace CommandName

def forms : CommandName → List OptionForm
  | checkGrammars => []
  | showDiagrams => [⟨"--connectors", false⟩, ⟨"--no-connectors", false⟩]
  | exportDiagrams => [⟨"--output-dir", true⟩, ⟨"--on-error", true⟩]

def request? (c : CommandName) (words : List String) : Option Request := do
  let l ← CommandLine.ofWords? c.forms false words
  match l.arguments with
  | [path] =>
    let path := Path.ofString path
    match c with
    | checkGrammars => return .checkGrammars path
    | showDiagrams => return .showDiagrams path (l.options.getLast?.any (·.1 = "--connectors"))
    | exportDiagrams =>
      let policy ← match l.value? "--on-error" with
        | none => some none
        | some name => (Named.find ErrorPolicy name).toOption.map some
      return .exportDiagrams path ((l.value? "--output-dir").map Path.ofString) policy
  | _ => none

end CommandName

structure Invocation where
  settings : Option Path
  command : CommandName
  words : List String

def Invocation.ofWords? (words : List String) : Option Invocation := do
  let l ← CommandLine.ofWords? [⟨"--config", true⟩] true words
  match l.arguments with
  | name :: rest =>
    return ⟨(l.value? "--config").map Path.ofString, ← (Named.find CommandName name).toOption, rest⟩
  | [] => none

variable [Machine] [Terminal]

def Request.action {α : Type} [Scalar α] [Numeral α] (settings : Settings α) :
    Request → CommandAction Unit
  | .checkGrammars path => checkCommand path
  | .showDiagrams path connectors => showCommand settings connectors path
  | .exportDiagrams path directory policy => exportCommand settings directory policy path

def Request.paths : Request → List Path
  | .checkGrammars path | .showDiagrams path _ => [path]
  | .exportDiagrams path directory _ => path :: directory.toList

def requireNoNull (p : Path) : CommandAction Unit :=
  if p.hasNull then throw (.crash (.files .nullCharacter)) else return

/-- A whole invocation.  The settings are read before the command's own part of the line is. -/
def Invocation.action (i : Invocation) (env : Environment) : CommandAction Unit := do
  i.settings.toList.forM requireNoNull
  match loadSettings (← get).files env i.settings with
  | .error e =>
    if e.isBadSetting then
      CommandAction.printLines <| consoleLines <|
        "[red]Invalid configuration:[/] " ++ Markup.escape ("\n".intercalate e.lines)
      throw (.exit 1)
    else throw (.crash (.settings e))
  | .ok settings =>
    match i.command.request? i.words with
    | none => throw (.exit 2)
    | some r =>
      r.paths.forM requireNoNull
      r.action settings

def documentPaths (env : Environment) (words : List String) : List Path :=
  let paths := [((Invocation.ofWords? words).bind Invocation.settings).toList,
    ((env.lookup "TRAILER_CONFIG_PATH").map Path.ofString).toList, [standardDocument]].flatten
  paths ++ paths.filterMap (expandHome? env)

/-- The paths that a command line works on, by the settings in the given files. -/
def workPaths (fs : Files) (env : Environment) (words : List String) : List Path :=
  match Invocation.ofWords? words with
  | none => []
  | some i =>
    match i.command.request? i.words, loadSettings fs env i.settings with
    | some (.checkGrammars p), _ | some (.showDiagrams p _), _ => [p]
    | some (.exportDiagrams p directory _), .ok settings =>
      [p, directory.getD settings.outputDirectory]
    | _, _ => []

structure ProgramResult where
  exitCode : Nat
  crash : Option Crash
  printed : List String
  files : Files

def runProgram (words : List String) (env : Environment) (files : Files) : ProgramResult :=
  let action : CommandAction Unit := match Invocation.ofWords? words with
    | some i => i.action env
    | none => throw (.exit 2)
  let (r, w) := action.run.run ⟨files, []⟩
  let (exitCode, crash) := match r with
    | .ok () => (0, none)
    | .error (.exit code) => (code, none)
    | .error (.crash cause) => (1, some cause)
  ⟨exitCode, crash, w.printed, w.files⟩

/-- The limits that the program is run with.  What is proved of reading and of printing holds for
all limits. -/
instance : Machine := ⟨1000⟩

instance : Terminal := ⟨1000⟩

end Railroad
