import Railroad.Text.Cells
import Railroad.Text.Lines
import Railroad.Text.Markup
import Railroad.Text.Wrap

namespace Railroad

/-- What is printed on: lines of so many cells. -/
class Terminal where
  width : Nat

/-- Controls that move the cursor in ways a line cannot show; they are not printed. -/
def isDropped (c : Char) : Bool :=
  let n := c.toNat
  n = 0x07 || n = 0x08 || (0x0b ≤ n && n ≤ 0x0d)

def expandTabs (column : Nat) : List Char → List Char
  | [] => []
  | c :: s =>
    if c = '\t' then
      let width := 8 - column % 8
      List.replicate width ' ' ++ expandTabs (column + width) s
    else c :: expandTabs (column + charCells c) s

def printable (markup : String) : List Char := (Markup.shown markup).filter (!isDropped ·)

/-- The lines of a marked-up text, of any length.  Space at the end of a line that is too long for
the terminal is left out. -/
def longLines [Terminal] (markup : String) : List String :=
  (splitAt '\n' (printable markup)).map fun line =>
    String.ofList (Wrap.trimTo Terminal.width (expandTabs 0 line))

def wrappedLines (long : LongWord) (limit : Nat) (markup : String) : List String :=
  (splitAt '\n' (printable markup)).flatMap fun line =>
    (wrapLine long limit (expandTabs 0 line)).map String.ofList

def consoleLines [Terminal] (markup : String) : List String :=
  wrappedLines .folded Terminal.width markup

def markupWidth (markup : String) : Nat :=
  ((splitLines (printable markup)).map cellsOf).foldl max 0

end Railroad
