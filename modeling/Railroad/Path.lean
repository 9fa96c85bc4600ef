import Railroad.Text.Lines

namespace Railroad

structure Path where
  slashes : Nat
  parts : List String
  deriving DecidableEq, Repr

namespace Path

/-- Reads a path.  Empty parts and single dots say nothing; two dots are kept, since what they mean
depends on the directories there are. -/
def ofString (s : String) : Path :=
  let slashes := (s.toList.takeWhile (· = '/')).length
  let parts := (splitAt '/' s.toList).filter fun p => p ≠ [] && p ≠ ['.']
  ⟨if slashes ≤ 2 then slashes else 1, parts.map String.ofList⟩

def toString (p : Path) : String :=
  match p.slashes, p.parts with
  | 0, [] => "."
  | n, parts => String.ofList (List.replicate n '/') ++ "/".intercalate parts

instance : ToString Path := ⟨toString⟩

def hasNull (p : Path) : Bool := p.parts.any fun part => part.toList.contains '\x00'

def child (p : Path) (name : String) : Path := ⟨p.slashes, p.parts ++ [name]⟩

def parent (p : Path) : Path := ⟨p.slashes, p.parts.dropLast⟩

/-- A name in two: its suffix starts at the last dot, unless nothing stands before or behind it. -/
def splitName (name : String) : String × String :=
  let ending := name.toList.reverse.takeWhile (· ≠ '.')
  let rest := name.toList.reverse.dropWhile (· ≠ '.')
  if ending = [] ∨ rest.length ≤ 1 then (name, "")
  else (String.ofList rest.tail.reverse, String.ofList ('.' :: ending.reverse))

def suffix (p : Path) : String :=
  match p.parts.getLast? with
  | some name => (splitName name).2
  | none => ""

def withSuffix (p : Path) (suffix : String) : Path :=
  match p.parts.getLast? with
  | some name => p.parent.child ((splitName name).1 ++ suffix)
  | none => p

end Path

end Railroad
