import Railroad.Geometry
import Railroad.Rule

namespace Railroad

variable {α ι : Type} [Scalar α]

inductive BoxStyle where
  | terminal
  | nonterminal
  | special
  deriving DecidableEq, Repr

instance : Named BoxStyle where
  family := "BoxStyle"
  all := [.terminal, .nonterminal, .special]
  name
    | .terminal => "terminal"
    | .nonterminal => "nonterminal"
    | .special => "special"

def BoxStyle.kind : BoxStyle → GeometryKind
  | terminal => .terminal
  | nonterminal => .nonterminal
  | special => .special

def TerminalStyle.boxStyle : TerminalStyle → BoxStyle
  | normal => .terminal
  | special => .special

structure Spacing (α : Type) where
  railMargin : α
  emptyHeight : α
  emptyPadding : α
  gap : α
  branchMargin : α
  stubLength : α

def Spacing.standard : Spacing α where
  railMargin := Scalar.ofNat 10
  emptyHeight := Scalar.ofNat 20
  emptyPadding := Scalar.ofNat 5
  gap := Scalar.ofNat 10
  branchMargin := Scalar.ofNat 20
  stubLength := Scalar.ofNat 10

namespace Spacing

open Scalar

def through (f : Frame α) : Connector α :=
  ⟨.rail, ⟨0, f.baseline⟩, ⟨f.width, f.baseline⟩, none, false⟩

def box (c : Spacing α) (text : String) (style : BoxStyle) (size : Size α) :
    Except (StructureCause α) (Geometry α) := do
  let f ← Frame.make style.kind (size.width + twice c.railMargin) size.height (half size.height)
  return .node f (some text) (some ⟨⟨c.railMargin, 0⟩, size⟩) [through f] []

def empty (c : Spacing α) : Except (StructureCause α) (Geometry α) := do
  let height := c.emptyHeight + twice c.emptyPadding
  let f ← Frame.make .empty (twice c.emptyPadding) height (half height)
  return .node f none none [through f] []

def across (baseline : α) : (x : α) → List (Geometry α) → List (Placed α (Geometry α))
  | _, [] => []
  | x, g :: gs => ⟨⟨x, baseline - g.baseline⟩, g⟩ :: across baseline (x + g.width) gs

def commonBaseline : List (Geometry α) → α
  | [] => 0
  | g :: gs => greatest g.baseline (gs.map Geometry.baseline)

def sequence (children : List (Geometry α)) : Except (StructureCause α) (Geometry α) := do
  let baseline := commonBaseline children
  let width := children.foldl (fun x g => x + g.width) 0
  let height := children.foldl (fun h g => max h (g.height + (baseline - g.baseline))) 0
  let f ← Frame.make .sequence width height baseline
  return .node f none none [] (across baseline 0 children)

def down (width gap : α) : (y : α) → List (Geometry α) → List (Placed α (Geometry α))
  | _, [] => []
  | y, g :: gs => ⟨⟨half (width - g.width), y⟩, g⟩ :: down width gap (y + (g.height + gap)) gs

def railHeight (p : Placed α (Geometry α)) : α := p.offset.y + p.node.baseline

def branchAt (c : Spacing α) (width : α) : Side → α
  | .left => c.branchMargin - c.stubLength
  | .right => width - (c.branchMargin - c.stubLength)

/-- From the branch of a side to the end of a rail, as far across as down. -/
def stub (c : Spacing α) (width : α) (side : Side) (rail : α) : Connector α :=
  let x := c.branchAt width side
  let inner := match side with
    | .left => x + c.stubLength
    | .right => x - c.stubLength
  ⟨.stub, ⟨x, rail - c.stubLength⟩, ⟨inner, rail⟩, some side, false⟩

def innerRail (c : Spacing α) (width rail : α) : Connector α :=
  ⟨.rail, ⟨c.branchMargin, rail⟩, ⟨width - c.branchMargin, rail⟩, some .right, false⟩

def branch (c : Spacing α) (width : α) (side : Side) (top lowest : α) (arrow : Bool) :
    Connector α :=
  let x := c.branchAt width side
  ⟨.branch, ⟨x, top⟩, ⟨x, lowest - c.stubLength⟩, some side, arrow⟩

/-- What joins a stack with the rails at the given heights.  A loop returns up the left branch, a
choice rejoins up the right one. -/
def joints (c : Spacing α) (width : α) (loop : Bool) (top : α) (rails : List α) :
    List (Connector α) :=
  let lowest := rails.getLast?.getD top
  rails.map (c.stub width .left)
    ++ [c.branch width .left top lowest loop]
    ++ [⟨.rail, ⟨0, top⟩, ⟨width, top⟩, some .right, false⟩]
    ++ rails.flatMap (fun rail => [c.stub width .right rail, c.innerRail width rail])
    ++ [c.branch width .right top lowest !loop]

def pile (c : Spacing α) (loop : Bool) (first second : Geometry α) (others : List (Geometry α)) :
    Except (StructureCause α) (Geometry α) := do
  let children := first :: second :: others
  let width := greatest first.width ((second :: others).map Geometry.width) + twice c.branchMargin
  let height := children.foldl (fun y g => y + (g.height + c.gap)) 0 - c.gap
  let placed := down width c.gap 0 children
  let rails := placed.map railHeight
  let f ← Frame.make (if loop then .loop else .choice) width height first.baseline
  return .node f none none (c.joints width loop (rails.headD 0) rails.tail) placed

def stack (c : Spacing α) (loop : Bool) : List (Geometry α) → Except (StructureCause α) (Geometry α)
  | first :: second :: others => c.pile loop first second others
  | _ => .error .tooFewAlternatives

end Spacing

inductive LayoutFault (ι α : Type) where
  | structural (cause : StructureCause α)
  | foreign (value : ι)

def LayoutFault.message [Numeral α] (kindOf : ι → String) : LayoutFault ι α → String
  | structural cause => cause.message
  | foreign value => "Unsupported rule node: " ++ kindOf value

abbrev Measurer (m : Type → Type) (α : Type) := String → BoxStyle → m (Size α)

variable {m : Type → Type} [Monad m]

def LayoutFault.lift {β : Type} (r : Except (StructureCause α) β) : ExceptT (LayoutFault ι α) m β :=
  ExceptT.mk (pure (r.mapError LayoutFault.structural))

mutual

/-- The drawing of a tree.  Parts are drawn before the whole and from left to right, and every
label is measured once.  The stack that the recursion takes on a machine is left out: trees are
drawn however deep they are. -/
def Tree.layout (measure : Measurer m α) (c : Spacing α) :
    Tree ι → ExceptT (LayoutFault ι α) m (Geometry α)
  | .terminal text style => do
    let size ← ExceptT.lift (measure text style.boxStyle)
    LayoutFault.lift (c.box text style.boxStyle size)
  | .nonterminal name => do
    let size ← ExceptT.lift (measure name .nonterminal)
    LayoutFault.lift (c.box name .nonterminal size)
  | .empty => LayoutFault.lift c.empty
  | .sequence children => do
    let gs ← layoutAll measure c children
    LayoutFault.lift (Spacing.sequence gs)
  | .choice first second others => do
    let g ← first.layout measure c
    let h ← second.layout measure c
    let gs ← layoutAll measure c others
    LayoutFault.lift (c.stack false (g :: h :: gs))
  | .loop body back => do
    let g ← body.layout measure c
    let h ← back.layout measure c
    LayoutFault.lift (c.stack true [g, h])
  | .foreign value => throw (.foreign value)

def Tree.layoutAll (measure : Measurer m α) (c : Spacing α) :
    List (Tree ι) → ExceptT (LayoutFault ι α) m (List (Geometry α))
  | [] => pure []
  | t :: ts => do
    let g ← t.layout measure c
    let gs ← layoutAll measure c ts
    return g :: gs

end

def Rule.draw (measure : Measurer Id α) (c : Spacing α) (r : Rule) :
    Except (StructureCause α) (Geometry α) :=
  match (Tree.layout measure c r).run with
  | .ok g => .ok g
  | .error (.structural cause) => .error cause
  | .error (.foreign v) => nomatch v

end Railroad
