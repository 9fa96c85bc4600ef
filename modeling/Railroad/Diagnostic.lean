import Railroad.Fault

namespace Railroad

structure Place where
  line : Nat
  column : Int
  deriving BEq, DecidableEq, Repr

/-- The text before a position; a negative position counts from the end. -/
def textBefore (source : List Char) (position : Int) : List Char :=
  if position < 0 then source.take (source.length - position.natAbs)
  else source.take position.toNat

def lastLine (s : List Char) : List Char := (s.reverse.takeWhile (· ≠ '\n')).reverse

/-- The line is that of the text before the position; the column counts from where that line starts
up to the position itself, even beyond the end of the text. -/
def place (source : List Char) (position : Int) : Place :=
  let text := textBefore source position
  let lineStart := text.length - (lastLine text).length
  ⟨text.count '\n' + 1, position - lineStart + 1⟩

structure Diagnostic where
  fault : Fault
  place : Option Place
  symbol : Option String
  deriving BEq, DecidableEq, Repr

def Fault.diagnose (f : Fault) (source : List Char) (symbol : Option String) : Diagnostic :=
  ⟨f, f.position.map (place source), symbol⟩

def Diagnostic.describe (d : Diagnostic) : String :=
  let place := match d.place with
    | some p => "line " ++ toString p.line ++ ", column " ++ toString p.column
    | none => "input"
  let symbol := match d.symbol with
    | none | some "" => ""
    | some s => s ++ ": "
  symbol ++ d.fault.message ++ " (" ++ place ++ ")"

end Railroad
