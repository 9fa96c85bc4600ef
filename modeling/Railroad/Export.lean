import Railroad.Assembly
import Railroad.Files
import Railroad.Json.Writer

namespace Railroad

variable {α : Type} [Numeral α]

def writeJson (p : Path) (v : Json α) : FileAction Unit := do
  FileAction.makeDirectories p.parent
  if p.parts.isEmpty then throw (.unnamed p)
  match v.serialize with
  | .error cause => throw (.unwritable cause)
  | .ok text =>
    let temporary := p.withSuffix (p.suffix ++ ".tmp")
    FileAction.write temporary text.toUTF8
    FileAction.replace temporary p

structure Exporter where
  directory : Path
  written : List Path := []

namespace Exporter

def pathFor (x : Exporter) (symbol : String) : Path := x.directory.child (symbol ++ ".json")

def record (x : Exporter) (p : Path) : Exporter :=
  if p ∈ x.written then x else { x with written := x.written ++ [p] }

/-- Writes one diagram.  An empty file beside its own locks it and stays there. -/
def render [Scalar α] (x : Exporter) (d : Diagram α) : FileAction Exporter := do
  let p := x.pathFor d.symbol
  FileAction.makeDirectories p.parent
  FileAction.write (p.withSuffix (p.suffix ++ ".lock")) .empty
  writeJson p d.payload
  return x.record p

def renderAll [Scalar α] (x : Exporter) : List (Diagram α) → FileAction Exporter
  | [] => return x
  | d :: ds => do (← x.render d).renderAll ds

def assemble [Scalar α] [Machine] (policy : ErrorPolicy) (engine : Engine α) (source : List Char)
    (x : Exporter) : FileAction (Report α × Exporter) := do
  let report := Report.ofOutcomes (engine.run policy source)
  return (report, ← x.renderAll report.diagrams)

def log [Scalar α] (x : Exporter) (d : Diagram α) : LogLevel × String :=
  (.info, "Wrote " ++ (x.pathFor d.symbol).toString)

end Exporter

end Railroad
