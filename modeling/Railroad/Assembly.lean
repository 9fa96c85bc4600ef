import Railroad.Diagnostic
import Railroad.Diagram
import Railroad.Layout
import Railroad.Log
import Railroad.Statement.Recovery

namespace Railroad

variable {α : Type} [Scalar α]

inductive ErrorPolicy where
  | abort
  | skip
  deriving DecidableEq, Repr

instance : Named ErrorPolicy where
  family := "ErrorPolicy"
  all := [.abort, .skip]
  name
    | .abort => "abort"
    | .skip => "skip"

abbrev Engine (α : Type) [Scalar α] := Rule → Except Fault (Geometry α)

def layoutEngine [Numeral α] (measure : Measurer Id α) (c : Spacing α) : Engine α := fun r =>
  (r.draw measure c).mapError StructureCause.fault

inductive Outcome (α : Type) [Scalar α] where
  | drawn (diagram : Diagram α)
  | failed (diagnostic : Diagnostic)

structure Turn (α : Type) [Scalar α] where
  start : List Char
  outcome : Outcome α
  next : List Char

variable [Machine]

namespace Engine

/-- Takes the statement at the front of `s`, a rest of `source`.  Behind a statement that has its
semicolon the run goes on there; behind any other it goes on behind the next semicolon that is not
quoted. -/
def turn (engine : Engine α) (source s : List Char) : Turn α :=
  match Statement.read source.length s with
  | .error e => ⟨s, .failed ((e.fault source.length).diagnose source none), skipStatement s⟩
  | .ok st =>
    let symbol := st.value.symbol
    match Statement.terminator st.rest with
    | .error e => ⟨s, .failed ((e.fault source.length).diagnose source symbol), skipStatement s⟩
    | .ok t =>
      match engine st.value.rule with
      | .error fault => ⟨s, .failed (fault.diagnose source symbol), t.rest⟩
      | .ok geometry => ⟨s, .drawn ⟨symbol, st.value.literal, geometry⟩, t.rest⟩

theorem turn_next_shorter (engine : Engine α) (source : List Char) {s : List Char} (h : s ≠ []) :
    (engine.turn source s).next.length < s.length := by
  unfold turn
  split
  · exact length_skipStatement h
  · rename_i st _
    dsimp only
    split
    · exact length_skipStatement h
    · rename_i t _
      have := Nat.lt_trans t.shorter st.shorter
      split <;> exact this

/-- The turns over `s`, up to the first failure if failures end the run. -/
def turns (engine : Engine α) (policy : ErrorPolicy) (source : List Char) :
    List Char → List (Turn α)
  | [] => []
  | c :: s =>
    have := engine.turn_next_shorter source (List.cons_ne_nil c s)
    let t := engine.turn source (c :: s)
    match t.outcome, policy with
    | .failed _, .abort => [t]
    | _, _ => t :: engine.turns policy source t.next
termination_by s => s.length
decreasing_by exact this

def run (engine : Engine α) (policy : ErrorPolicy) (source : List Char) : List (Outcome α) :=
  (engine.turns policy source (skipBlanks source)).map Turn.outcome

end Engine

def Outcome.diagram? : Outcome α → Option (Diagram α)
  | drawn d => some d
  | failed _ => none

def Outcome.diagnostic? : Outcome α → Option Diagnostic
  | drawn _ => none
  | failed d => some d

structure Report (α : Type) [Scalar α] where
  diagrams : List (Diagram α)
  errors : List Diagnostic

namespace Report

def ofOutcomes (os : List (Outcome α)) : Report α :=
  ⟨os.filterMap Outcome.diagram?, os.filterMap Outcome.diagnostic?⟩

def ok (r : Report α) : Bool := r.errors.isEmpty

def firstFault? (r : Report α) : Option Fault := r.errors.head?.map Diagnostic.fault

end Report

def Outcome.log [Numeral α] (policy : ErrorPolicy) : Outcome α → LogLevel × String
  | drawn d =>
    (.debug, "Laid out " ++ d.symbol ++ " (" ++ Numeral.report d.geometry.width ++ "x" ++
      Numeral.report d.geometry.height ++ ")")
  | failed d =>
    match policy with
    | .abort => (.debug, "Stopping at " ++ d.describe)
    | .skip => (.warning, "Skipping statement: " ++ d.describe)

structure Gallery (α : Type) [Scalar α] where
  diagrams : List (Diagram α) := []

namespace Gallery

def receive (g : Gallery α) (o : Outcome α) : Gallery α :=
  match o with
  | .drawn d => ⟨g.diagrams ++ [d]⟩
  | .failed _ => g

def symbols (g : Gallery α) : List String := g.diagrams.map Diagram.symbol

def assemble (policy : ErrorPolicy) (engine : Engine α) (source : List Char) (g : Gallery α) :
    Report α × Gallery α :=
  let os := engine.run policy source
  (.ofOutcomes os, os.foldl receive g)

end Gallery

end Railroad
