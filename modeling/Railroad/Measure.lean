import Railroad.Layout
import Railroad.Text.Cells

namespace Railroad

variable {α : Type} [Scalar α]

structure CellMetrics (α : Type) where
  charWidth : α
  specialCharWidth : Option α
  lineHeight : α
  paddingX : α
  paddingY : α

namespace CellMetrics

def standard : CellMetrics α where
  charWidth := Scalar.ofNat 8
  specialCharWidth := none
  lineHeight := Scalar.ofNat 16
  paddingX := Scalar.ofNat 8
  paddingY := Scalar.ofNat 4

def cellWidth (c : CellMetrics α) : BoxStyle → α
  | .special => c.specialCharWidth.getD c.charWidth
  | _ => c.charWidth

def measure (c : CellMetrics α) (text : String) (style : BoxStyle) : Size α where
  width := Scalar.ofNat (cells text) * c.cellWidth style + Scalar.twice c.paddingX
  height := c.lineHeight + Scalar.twice c.paddingY

end CellMetrics

/-- Sizes listed by text and, for texts that are not listed, by style; all other labels are ten wide
a character and twenty high. -/
structure SizeTable (α : Type) where
  texts : List (String × Size α)
  styles : List (BoxStyle × Size α)

def SizeTable.measure (t : SizeTable α) (text : String) (style : BoxStyle) : Size α :=
  match t.texts.lookup text, t.styles.lookup style with
  | some s, _ => s
  | none, some s => s
  | none, none => ⟨Scalar.ofNat (10 * text.length), Scalar.ofNat 20⟩

end Railroad
