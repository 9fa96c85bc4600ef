namespace Railroad

def normalizeNewlines : List Char → List Char
  | [] => []
  | '\r' :: '\n' :: s => '\n' :: normalizeNewlines s
  | '\r' :: s => '\n' :: normalizeNewlines s
  | c :: s => c :: normalizeNewlines s

def isLineEnd (c : Char) : Bool :=
  let n := c.toNat
  (0x0a ≤ n && n ≤ 0x0d) || (0x1c ≤ n && n ≤ 0x1e) || n = 0x85 || n = 0x2028 || n = 0x2029

/-- The lines of a text without what ends them.  Nothing comes behind the end of the last line. -/
def splitLines : List Char → List (List Char)
  | [] => []
  | c :: s =>
    if isLineEnd c then [] :: splitLines s
    else
      match splitLines s with
      | [] => [[c]]
      | line :: lines => (c :: line) :: lines

def splitAt (d : Char) : List Char → List (List Char)
  | [] => [[]]
  | c :: s =>
    if c = d then [] :: splitAt d s
    else
      match splitAt d s with
      | [] => [[c]]
      | piece :: pieces => (c :: piece) :: pieces

end Railroad
