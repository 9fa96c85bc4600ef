import Railroad.Assembly
import Railroad.Measure
import Railroad.Path

namespace Railroad

variable {α : Type} [Scalar α]

structure Settings (α : Type) where
  spacing : Spacing α
  metrics : CellMetrics α
  onError : ErrorPolicy
  outputDirectory : Path
  logLevel : LogLevel

def Settings.standard : Settings α where
  spacing := .standard
  metrics := .standard
  onError := .abort
  outputDirectory := ⟨0, ["data", "diagrams"]⟩
  logLevel := .warning

def Settings.engine [Numeral α] (s : Settings α) : Engine α :=
  layoutEngine s.metrics.measure s.spacing

end Railroad
