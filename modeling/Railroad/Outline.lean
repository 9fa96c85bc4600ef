import Railroad.Diagram
import Railroad.Text.Console

namespace Railroad

variable {α : Type} [Scalar α]

inductive Outline (ε : Type) where
  | entry (value : ε) (below : List (Outline ε))

/-- An entry is about a drawing at its absolute position or about a connector in the coordinates of
its drawing. -/
inductive OutlineEntry (α : Type) [Scalar α] where
  | drawing (geometry : Geometry α) (position : Point α)
  | connector (connector : Connector α)

def Point.add (p q : Point α) : Point α := ⟨p.x + q.x, p.y + q.y⟩

mutual

def Geometry.outline (connectors : Bool) (position : Point α) :
    Geometry α → Outline (OutlineEntry α)
  | .node f l b cs children =>
    .entry (.drawing (.node f l b cs children) position) <|
      (if connectors then cs.map fun c => .entry (.connector c) [] else [])
        ++ outlineAll connectors position children

def outlineAll (connectors : Bool) (position : Point α) :
    List (Placed α (Geometry α)) → List (Outline (OutlineEntry α))
  | [] => []
  | ⟨offset, g⟩ :: gs =>
    g.outline connectors (position.add offset) :: outlineAll connectors position gs

end

section Text

variable [Numeral α]

def Point.brief (p : Point α) : String :=
  "(" ++ Numeral.brief p.x ++ ", " ++ Numeral.brief p.y ++ ")"

def Geometry.brief (g : Geometry α) : String :=
  let label := match g.label with
    | some l => Markup.styled "bold" l ++ " "
    | none => ""
  Named.name g.kind ++ " " ++ label ++ Numeral.brief g.width ++ "x" ++ Numeral.brief g.height ++
    " @" ++ Numeral.brief g.baseline

def Connector.brief (c : Connector α) : String :=
  let side := match c.side with
    | some s => " " ++ Named.name s
    | none => ""
  Named.name c.kind ++ side ++ " " ++ c.start.brief ++ " -> " ++ c.finish.brief ++
    if c.arrow then " ▲" else ""

def OutlineEntry.text : OutlineEntry α → String
  | drawing g position => g.brief ++ " at " ++ position.brief
  | connector c => c.brief

end Text

def guided (first others : String) : List String → List String
  | [] => []
  | line :: lines => (first ++ line) :: lines.map (others ++ ·)

variable [Terminal]

/-- The lines of an entry's text behind guides.  Where the guides leave no cells, there are none. -/
def entryLines (guides : Nat) (markup : String) : List String :=
  if guides < Terminal.width then wrappedLines .folded (Terminal.width - guides) markup else []

mutual

def outlineLines {ε : Type} (text : ε → String) (guides : String) :
    List (Outline ε) → List String
  | [] => []
  | o :: os =>
    outlineLine text guides os.isEmpty o ++ outlineLines text guides os

def outlineLine {ε : Type} (text : ε → String) (guides : String) (last : Bool) :
    Outline ε → List String
  | .entry value below =>
    let inner := guides ++ if last then "    " else "│   "
    guided (guides ++ if last then "└── " else "├── ") inner
        (entryLines inner.length (text value)) ++
      outlineLines text inner below

end

def Diagram.outlineLines [Numeral α] (connectors : Bool) (d : Diagram α) : List String :=
  consoleLines (Markup.styled "bold cyan" d.symbol)
    ++ Railroad.outlineLines OutlineEntry.text "" [d.geometry.outline connectors ⟨0, 0⟩]
    ++ consoleLines (Markup.escape d.caption)

end Railroad
