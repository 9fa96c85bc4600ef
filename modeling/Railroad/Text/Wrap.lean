import Railroad.Text.Cells
import Railroad.Text.Words

namespace Railroad

inductive LongWord where
  | folded
  | cut
  deriving DecidableEq, Repr

namespace Wrap

def chop (limit : Nat) (line : List Char) (used : Nat) : List Char → List (List Char)
  | [] => [line.reverse]
  | c :: s =>
    if limit < used + charCells c then line.reverse :: chop limit [c] (charCells c) s
    else chop limit (c :: line) (used + charCells c) s

def breakAt (start : Nat) : List Nat := if start = 0 then [] else [start]

def partBreaks (start : Nat) : List (List Char) → List Nat
  | [] => []
  | part :: parts => breakAt start ++ partBreaks (start + part.length) parts

/-- The positions of the breaks in front of words and, if they are folded, within them.  The first
word begins at `start`, behind `used` cells of its line. -/
def breaks (long : LongWord) (limit start used : Nat) : List (List Char) → List Nat
  | [] => []
  | word :: ws =>
    let size := cellsOf (trimEnd word)
    let next := start + word.length
    if used + size ≤ limit then breaks long limit next (used + cellsOf word) ws
    else if limit < size then
      match long with
      | .folded =>
        let parts := chop limit [] 0 word
        partBreaks start parts ++
          breaks long limit next ((parts.getLast?.map cellsOf).getD 0) ws
      | .cut => breakAt start ++ breaks long limit next (cellsOf word) ws
    else if used ≠ 0 ∧ start ≠ 0 then start :: breaks long limit next (cellsOf word) ws
    else breaks long limit next used ws

def cutAt (start : Nat) : List Nat → List Char → List (List Char)
  | [], s => [s]
  | n :: ns, s => s.take (n - start) :: cutAt n ns (s.drop (n - start))

def trimTo (limit : Nat) (s : List Char) : List Char :=
  let space := (s.reverse.takeWhile isSpace).length
  s.take (s.length - min space (s.length - limit))

/-- Looks for a front part of exactly `total` cells, of `low` to `high` characters.  Where a wide
character is in the way, one cell less and a space will do. -/
def frontPart (s : List Char) (total low high : Nat) : (steps : Nat) → List Char
  | 0 => s.take low
  | steps + 1 =>
    let middle := (low + high) / 2
    let front := s.take (middle + 1)
    let size := cellsOf front
    if size = total + 1 ∧ front.getLast?.any (charCells · = 2) then front.dropLast ++ [' ']
    else if size = total then front
    else if total < size then frontPart s total low middle steps
    else frontPart s total middle high steps

def takeCells (total : Nat) (s : List Char) : List Char :=
  if total = 0 then []
  else if s.all (charCells · = 1) then s.take total
  else if cellsOf s ≤ total then s
  else frontPart s total 0 s.length s.length

def fit (long : LongWord) (limit : Nat) (s : List Char) : List Char :=
  if cellsOf s ≤ limit then s
  else match long with
    | .folded => takeCells limit s
    | .cut => takeCells (limit - 1) s ++ ['…']

end Wrap

def wrapLine (long : LongWord) (limit : Nat) (line : List Char) : List (List Char) :=
  (Wrap.cutAt 0 (Wrap.breaks long limit 0 0 (spacedWords line)) line).map fun part =>
    Wrap.fit long limit (Wrap.trimTo limit part)

end Railroad
