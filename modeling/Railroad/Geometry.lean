import Railroad.Fault
import Railroad.Named
import Railroad.Scalar

namespace Railroad

inductive GeometryKind where
  | terminal
  | nonterminal
  | special
  | empty
  | sequence
  | choice
  | loop
  deriving DecidableEq, Repr

instance : Named GeometryKind where
  family := "GeometryKind"
  all := [.terminal, .nonterminal, .special, .empty, .sequence, .choice, .loop]
  name
    | .terminal => "terminal"
    | .nonterminal => "nonterminal"
    | .special => "special"
    | .empty => "empty"
    | .sequence => "sequence"
    | .choice => "choice"
    | .loop => "loop"

inductive ConnectorKind where
  | rail
  | stub
  | branch
  deriving DecidableEq, Repr

instance : Named ConnectorKind where
  family := "ConnectorKind"
  all := [.rail, .stub, .branch]
  name
    | .rail => "rail"
    | .stub => "stub"
    | .branch => "branch"

inductive Side where
  | left
  | right
  deriving DecidableEq, Repr

instance : Named Side where
  family := "Side"
  all := [.left, .right]
  name
    | .left => "left"
    | .right => "right"

structure Point (α : Type) where
  x : α
  y : α

structure Size (α : Type) where
  width : α
  height : α

structure Box (α : Type) where
  position : Point α
  size : Size α

structure Connector (α : Type) where
  kind : ConnectorKind
  start : Point α
  finish : Point α
  side : Option Side := none
  arrow : Bool := false

structure Placed (α γ : Type) where
  offset : Point α
  node : γ

variable {α : Type}

def Connector.extent [Scalar α] (c : Connector α) : α :=
  Scalar.max (Scalar.abs (c.finish.x - c.start.x)) (Scalar.abs (c.finish.y - c.start.y))

/-- The extent of a drawing and the height of the rail through it, which lies inside. -/
structure Frame (α : Type) [Scalar α] where
  kind : GeometryKind
  width : α
  height : α
  baseline : α
  size_nonneg : ¬(width < 0 ∨ height < 0)
  baseline_mem : 0 ≤ baseline ∧ baseline ≤ height

inductive StructureCause (α : Type) where
  | tooFewAlternatives
  | negativeSize (kind : GeometryKind) (width height : α)
  | baselineOutside (kind : GeometryKind) (baseline height : α)

def StructureCause.message [Numeral α] : StructureCause α → String
  | tooFewAlternatives => "stack requires at least one alternative beyond the first"
  | negativeSize kind width height =>
    Named.name kind ++ " geometry has negative size " ++ Numeral.report width ++ "x" ++
      Numeral.report height
  | baselineOutside kind baseline height =>
    Named.name kind ++ " baseline " ++ Numeral.report baseline ++ " outside height " ++
      Numeral.report height

def StructureCause.fault [Numeral α] (c : StructureCause α) : Fault :=
  ⟨.structural, c.message, none⟩

variable [Scalar α]

def Frame.make (kind : GeometryKind) (width height baseline : α) :
    Except (StructureCause α) (Frame α) :=
  if size : width < 0 ∨ height < 0 then .error (.negativeSize kind width height)
  else if mem : 0 ≤ baseline ∧ baseline ≤ height then
    .ok ⟨kind, width, height, baseline, size, mem⟩
  else .error (.baselineOutside kind baseline height)

inductive Geometry (α : Type) [Scalar α] where
  | node (frame : Frame α) (label : Option String) (box : Option (Box α))
      (connectors : List (Connector α)) (children : List (Placed α (Geometry α)))

namespace Geometry

def frame : Geometry α → Frame α
  | node f _ _ _ _ => f

def label : Geometry α → Option String
  | node _ l _ _ _ => l

def box : Geometry α → Option (Box α)
  | node _ _ b _ _ => b

def connectors : Geometry α → List (Connector α)
  | node _ _ _ cs _ => cs

def children : Geometry α → List (Placed α (Geometry α))
  | node _ _ _ _ cs => cs

def kind (g : Geometry α) : GeometryKind := g.frame.kind

def width (g : Geometry α) : α := g.frame.width

def height (g : Geometry α) : α := g.frame.height

def baseline (g : Geometry α) : α := g.frame.baseline

def connectorsOf (g : Geometry α) (kind : ConnectorKind) (side : Option Side) :
    List (Connector α) :=
  g.connectors.filter fun c => c.kind = kind && (side.isNone || c.side = side)

mutual

def walk : Geometry α → List (Geometry α)
  | node f l b cs children => node f l b cs children :: walkAll children

def walkAll : List (Placed α (Geometry α)) → List (Geometry α)
  | [] => []
  | ⟨_, g⟩ :: gs => g.walk ++ walkAll gs

end

end Geometry

end Railroad
