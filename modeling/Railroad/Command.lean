import Railroad.Export
import Railroad.GrammarFile
import Railroad.Outline
import Railroad.Settings.Message
import Railroad.Table
import Railroad.Text.Markup.Tag

namespace Railroad

variable {α : Type} [Scalar α] [Numeral α]

structure World where
  files : Files
  printed : List String := []

inductive Crash where
  | files (fault : FileFault)
  | settings (fault : SettingsFault)
  | markup (fault : Markup.Fault)

def Crash.message : Crash → String
  | files fault => fault.message
  | settings fault => fault.headline
  | markup fault => fault.message

inductive Stop where
  | exit (code : Nat)
  | crash (cause : Crash)

abbrev CommandAction := ExceptT Stop (StateM World)

variable [Machine] [Terminal]

namespace CommandAction

def printLines (lines : List String) : CommandAction Unit :=
  modify fun w => { w with printed := w.printed ++ lines }

def print (markup : String) : CommandAction Unit :=
  match Markup.fault? markup with
  | some fault => throw (.crash (.markup fault))
  | none => printLines (longLines markup)

def ofFiles {β : Type} (f : Files → Except FileFault β) : CommandAction β := do
  match f (← get).files with
  | .ok x => return x
  | .error e => throw (.crash (.files e))

/-- Runs an action on the files.  What it has done is kept when it fails. -/
def onFiles {β : Type} (a : FileAction β) : CommandAction β := do
  let w ← get
  let (r, files) := a.run.run w.files
  set { w with files }
  match r with
  | .ok x => return x
  | .error e => throw (.crash (.files e))

def finish (failures : List Bool) : CommandAction Unit :=
  if failures.any id then throw (.exit 1) else return

end CommandAction

open CommandAction

/-- The grammars that a path leads to: a file's, or those of a directory.  All of them are read
before the first is worked on. -/
def readGrammarsAt (p : Path) : CommandAction (List (Path × List Char)) := do
  if !(← ofFiles (·.exists? p)) then
    print ("[red]File not found:[/] " ++ p.toString)
    throw (.exit 1)
  else if (← get).files.isDirectory p then
    let grammars ← ofFiles (·.readGrammars p)
    if grammars.isEmpty then print ("[yellow]No grammar files found in " ++ p.toString ++ "[/]")
    return grammars
  else
    return [(p, ← ofFiles (·.readGrammar p))]

/-- An error and the path it belongs to.  Brackets in a path count as markup, as they do wherever
paths are printed. -/
def errorText (p : Path) (d : Diagnostic) : String :=
  "[red]" ++ p.toString ++ ":[/] " ++ Markup.escape d.describe

def checkGrammar (p : Path) (source : List Char) : CommandAction Bool := do
  match parseGrammar source with
  | .error e =>
    print (errorText p ((e.fault source.length).diagnose source none))
    return true
  | .ok statements =>
    printLines <| tableLines ["Symbol", "Rule"] <|
      statements.map fun s => [Markup.escape s.symbol, Markup.escape s.literal]
    print ("[green]" ++ toString statements.length ++ " rule(s) parsed[/] from " ++ p.toString)
    return false

def checkCommand (p : Path) : CommandAction Unit := do
  finish (← (← readGrammarsAt p).mapM fun (p, source) => checkGrammar p source)

def reportErrors (p : Path) (report : Report α) : CommandAction Bool := do
  report.errors.forM fun d => print (errorText p d)
  return !report.ok

def showGrammar (settings : Settings α) (connectors : Bool) (p : Path) (source : List Char) :
    CommandAction Bool := do
  let report := Report.ofOutcomes (settings.engine.run settings.onError source)
  printLines (report.diagrams.flatMap (Diagram.outlineLines connectors))
  reportErrors p report

def showCommand (settings : Settings α) (connectors : Bool) (p : Path) : CommandAction Unit := do
  finish (← (← readGrammarsAt p).mapM fun (p, source) => showGrammar settings connectors p source)

def exportGrammar (settings : Settings α) (policy : ErrorPolicy) (x : Exporter) (p : Path)
    (source : List Char) : CommandAction (Exporter × Bool) := do
  let (report, x) ← onFiles (x.assemble policy settings.engine source)
  return (x, ← reportErrors p report)

def exportGrammars (settings : Settings α) (policy : ErrorPolicy) (x : Exporter) :
    List (Path × List Char) → CommandAction (Exporter × List Bool)
  | [] => return (x, [])
  | (p, source) :: grammars => do
    let (x, failed) ← exportGrammar settings policy x p source
    let (x, failures) ← exportGrammars settings policy x grammars
    return (x, failed :: failures)

def exportCommand (settings : Settings α) (directory : Option Path) (policy : Option ErrorPolicy)
    (p : Path) : CommandAction Unit := do
  let (x, failures) ← exportGrammars settings (policy.getD settings.onError)
    ⟨directory.getD settings.outputDirectory, []⟩ (← readGrammarsAt p)
  x.written.forM fun p => print ("[green]Wrote[/] " ++ p.toString)
  finish failures

end Railroad
