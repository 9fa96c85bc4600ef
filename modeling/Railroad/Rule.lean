namespace Railroad

inductive TerminalStyle where
  | normal
  | special
  deriving BEq, DecidableEq, Repr

/-- Trees whose leaves may also be values of a foreign kind `ι`.  A choice has two alternatives at
least, and a loop returns along its back edge. -/
inductive Tree (ι : Type) where
  | terminal (text : String) (style : TerminalStyle)
  | nonterminal (name : String)
  | empty
  | sequence (children : List (Tree ι))
  | choice (first second : Tree ι) (others : List (Tree ι))
  | loop (body back : Tree ι)
  | foreign (value : ι)
  deriving BEq

abbrev Rule := Tree Empty

namespace Tree

variable {ι : Type}

def optional (body : Tree ι) : Tree ι := choice body empty []

def oneOrMore (body : Tree ι) : Tree ι := loop body empty

def zeroOrMore (body : Tree ι) : Tree ι := choice empty (loop body empty) []

def choice? : List (Tree ι) → Option (Tree ι)
  | first :: second :: others => some (choice first second others)
  | _ => none

end Tree

end Railroad
