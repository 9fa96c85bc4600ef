import Railroad.Settings.Document.Fault

namespace Railroad.Document

structure Place where
  column : Option Nat
  rest : List Char

def isBlankNext (s : List Char) : Bool := s.head?.all fun c => isGap c || isLineEnd c

def isMark (s : List Char) : Bool :=
  (s.take 3 = ['-', '-', '-'] || s.take 3 = ['.', '.', '.']) && isBlankNext (s.drop 3)

def skipGap (comment : Bool) (column : Option Nat) : List Char → Place
  | [] => ⟨column, []⟩
  | c :: s =>
    if isLineEnd c then skipGap false (some 0) s
    else if comment then skipGap true column s
    else if c = '#' then skipGap true column s
    else if c = ' ' then skipGap false (column.map (· + 1)) s
    else ⟨column, c :: s⟩

/-- The gap or the line ends behind what has been read of a scalar, backwards.  The first line end
is there only if it counts. -/
inductive Fold where
  | spaces (gap : List Char)
  | lines (first : Option Char) (others : List Char)

def lineEnd (c : Char) : Char := if c = '\u2028' ∨ c = '\u2029' then c else '\n'

def Fold.text : Fold → List Char
  | spaces gap => gap.reverse
  | lines first others =>
    let others := others.reverse
    match first with
    | none => others
    | some '\n' => if others.isEmpty then [' '] else others
    | some c => c :: others

structure Scalar where
  text : List Char
  isPlain : Bool
  isLong : Bool
  next : Place

def Scalar.add (fold : Fold) (text : List Char) (s : Scalar) : Scalar :=
  let isLong := match fold with
    | .spaces _ => s.isLong
    | .lines _ _ => true
  { s with text := fold.text ++ text ++ s.text, isLong }

def escapes : List (Char × Char) :=
  [('0', '\x00'), ('a', '\x07'), ('b', '\x08'), ('t', '\t'), ('\t', '\t'), ('n', '\n'),
    ('v', '\x0b'), ('f', '\x0c'), ('r', '\r'), ('e', '\x1b'), (' ', ' '), ('"', '"'), ('\\', '\\'),
    ('/', '/'), ('N', '\x85'), ('_', '\xa0'), ('L', '\u2028'), ('P', '\u2029')]

def numbered (digits : List Char) : Except DocumentFault Char :=
  if !digits.all fun c => (Json.hexDigit? c).isSome then .error .badToken
  else
    let n := ofDigits 16 digits
    if h : n.isValidChar then .ok (Char.ofNatAux n h)
    else if n < 0x80000000 then .error .noCharacter
    else .error .hugeCharacter

/-- The rest of a scalar behind its quote.  In double quotes a backslash begins an escape; in single
quotes two of them stand for one. -/
def quotedRest (double : Bool) (fold : Fold) : List Char → Except DocumentFault Scalar
  | [] => .error .badToken
  | c :: s =>
    if isGap c then
      quotedRest double (match fold with | .spaces gap => .spaces (c :: gap) | f => f) s
    else if isLineEnd c then
      if isMark s then .error .badToken
      else
        quotedRest double (match fold with
          | .spaces _ => .lines (some (lineEnd c)) []
          | .lines first others => .lines first (lineEnd c :: others)) s
    else if double then
      match c, s with
      | '"', s => .ok (Scalar.add fold [] ⟨[], false, false, ⟨none, s⟩⟩)
      | '\\', 'x' :: a :: b :: s => do
        return (← quotedRest true (.spaces []) s).add fold [← numbered [a, b]]
      | '\\', 'u' :: a :: b :: c :: d :: s => do
        return (← quotedRest true (.spaces []) s).add fold [← numbered [a, b, c, d]]
      | '\\', 'U' :: a :: b :: c :: d :: e :: f :: g :: h :: s => do
        return (← quotedRest true (.spaces []) s).add fold [← numbered [a, b, c, d, e, f, g, h]]
      | '\\', e :: s =>
        if isLineEnd e then
          if isMark s then .error .badToken
          else (quotedRest true (.lines none []) s).map (·.add fold [])
        else match escapes.lookup e with
          | some x => (quotedRest true (.spaces []) s).map (·.add fold [x])
          | none => .error .badToken
      | c, s => (quotedRest true (.spaces []) s).map (·.add fold [c])
    else
      match c, s with
      | '\'', '\'' :: s => (quotedRest false (.spaces []) s).map (·.add fold ['\''])
      | '\'', s => .ok (Scalar.add fold [] ⟨[], false, false, ⟨none, s⟩⟩)
      | c, s => (quotedRest false (.spaces []) s).map (·.add fold [c])

def isColonNext : List Char → Bool
  | ':' :: s => isBlankNext s
  | _ => false

/-- The rest of a plain scalar.  It goes on on lines that are indented by at least `least` columns,
and ends at a comment, at a colon before a gap and at a tab.  `column` counts the spaces of a new
line. -/
def plainRest (least : Nat) (fold : Fold) (column : Option Nat) (s : List Char) : Scalar :=
  let ending : Scalar := ⟨[], true, false, ⟨column, s⟩⟩
  let isWaiting := match fold with
    | .spaces [] => false
    | _ => true
  match s with
  | [] => ending
  | c :: t =>
    if c = ' ' then
      plainRest least (match fold with | .spaces gap => .spaces (c :: gap) | f => f)
        (column.map (· + 1)) t
    else if isLineEnd c then
      let fold := match fold with
        | .spaces _ => Fold.lines (some (lineEnd c)) []
        | .lines first others => .lines first (lineEnd c :: others)
      if isMark t then ⟨[], true, false, ⟨some 0, t⟩⟩ else plainRest least fold (some 0) t
    else if c = '\t' || isColonNext s || isWaiting && c = '#' || column.any (· < least) then ending
    else (plainRest least (.spaces []) none t).add fold [c]

def isPlainStart : List Char → Bool
  | [] => false
  | c :: s =>
    if c = '-' || c = '?' || c = ':' then !isBlankNext s
    else c ∉ ",[]\x7b\x7d#&*!|>'\"%@\x60\t".toList

def scalar (least : Nat) (s : List Char) : Except DocumentFault Scalar :=
  match s with
  | '"' :: t => quotedRest true (.spaces []) t
  | '\'' :: t => quotedRest false (.spaces []) t
  | s =>
    if isPlainStart s then .ok (plainRest least (.spaces []) none s)
    else if s.head?.any (· ∈ ",]\x7d".toList) then .error .misplacedToken
    else .error .badToken

end Railroad.Document
