import Railroad.Json.Reader
import Railroad.Text.Lines

namespace Railroad.Markup.Argument

inductive Token where
  | number (imaginary : Bool)
  | text (bytes : Bool)
  | word
  | emptySet
  | mark (c : Char)
  deriving DecidableEq, Repr

def isDigits (p : Char → Bool) : List Char → Bool
  | [] => false
  | c :: s => p c && isMore s
where
  isMore : List Char → Bool
    | [] => true
    | '_' :: c :: s => p c && isMore s
    | c :: s => p c && isMore s

def isBased (base : Nat) (s : List Char) : Bool :=
  let digits := match s with
    | '_' :: s => s
    | s => s
  isDigits (fun c => (Json.hexDigit? c).any (· < base)) digits

def isDecimalDigits (s : List Char) : Bool := isDigits Char.isDigit s

def isExponent : List Char → Bool
  | [] => true
  | _ :: s => isDecimalDigits (splitSign s).2

def isFloat (s : List Char) : Bool :=
  let isMantissa := fun c => c ≠ 'e' && c ≠ 'E'
  let mantissa := s.takeWhile isMantissa
  let exponent := s.dropWhile isMantissa
  isExponent exponent && match splitAt '.' mantissa with
    | [whole] => isDecimalDigits whole && !exponent.isEmpty
    | [whole, fraction] =>
      !(whole.isEmpty && fraction.isEmpty) && (whole.isEmpty || isDecimalDigits whole) &&
        (fraction.isEmpty || isDecimalDigits fraction)
    | _ => false

def isWhole (s : List Char) : Bool :=
  match s with
  | '0' :: b :: s =>
    if b = 'x' || b = 'X' then isBased 16 s
    else if b = 'o' || b = 'O' then isBased 8 s
    else if b = 'b' || b = 'B' then isBased 2 s
    else isDigits (· = '0') ('0' :: b :: s)
  | s => isDecimalDigits s

def number? (s : List Char) : Option Token :=
  if s.getLast?.any fun c => c = 'j' || c = 'J' then
    if isDecimalDigits s.dropLast || isFloat s.dropLast then some (.number true) else none
  else if isWhole s || isFloat s then some (.number false)
  else none

def isNumberChar (c : Char) : Bool := c.isAlphanum || c = '_' || c = '.'

/-- The longest run of characters that a number may consist of.  A sign belongs to it behind the
letter of an exponent. -/
def numberRun (hexadecimal afterE : Bool) : List Char → List Char
  | [] => []
  | c :: s =>
    if isNumberChar c then c :: numberRun hexadecimal (!hexadecimal && (c = 'e' || c = 'E')) s
    else if afterE && (c = '+' || c = '-') then c :: numberRun hexadecimal false s
    else []

def forms : List (String × Bool × Bool) :=
  [("", false, false), ("u", false, false), ("r", false, true), ("b", true, false),
    ("br", true, true), ("rb", true, true)]

def escapeDigits (bytes : Bool) (c : Char) : Nat :=
  if c = 'x' then 2 else if bytes then 0 else if c = 'u' then 4 else if c = 'U' then 8 else 0

def isEscapeOk (bytes : Bool) (c : Char) (s : List Char) : Bool :=
  let n := escapeDigits bytes c
  let ds := s.take n
  ds.length = n && ds.all (fun d => (Json.hexDigit? d).isSome) &&
    (n < 8 || ds.take 3 = ['0', '0', '0'] || ds.take 4 = ['0', '0', '1', '0']) &&
    (bytes || c ≠ 'N')

def behindText? (bytes raw triple : Bool) (quote : Char) : List Char → Option (List Char)
  | [] => none
  | '\\' :: c :: s =>
    if !raw && !isEscapeOk bytes c s || bytes && 0x7f < c.toNat then none
    else behindText? bytes raw triple quote s
  | c :: s =>
    if c = quote then
      if !triple then some s
      else match s with
        | d :: e :: t =>
          if d = quote && e = quote then some t else behindText? bytes raw triple quote s
        | _ => none
    else if c = '\n' && !triple || bytes && 0x7f < c.toNat then none
    else behindText? bytes raw triple quote s

def text? (s : List Char) : Option (Token × List Char) :=
  let letters := s.takeWhile Char.isAlpha
  match forms.lookup (String.ofList (letters.map Char.toLower)), s.drop letters.length with
  | some (bytes, raw), quote :: s =>
    if quote ≠ '"' && quote ≠ '\'' then none
    else
      let rest := match s with
        | a :: b :: t =>
          if a = quote && b = quote then behindText? bytes raw true quote t
          else behindText? bytes raw false quote s
        | s => behindText? bytes raw false quote s
      rest.map fun rest => (.text bytes, rest)
  | _, _ => none

def wordTokens : List (String × Token) :=
  [("True", .word), ("False", .word), ("None", .word), ("set", .emptySet)]

def tokens? : (room depth : Nat) → List Char → Option (List Token)
  | _, _, [] => some []
  | 0, _, _ => none
  | room + 1, depth, c :: s =>
    if c = ' ' || c = '\t' || c = '\x0c' || c = '\n' && depth ≠ 0 then tokens? room depth s
    else if c ∈ "(\x7b".toList then (tokens? room (depth + 1) s).map (.mark c :: ·)
    else if c ∈ ")\x7d".toList then (tokens? room (depth - 1) s).map (.mark c :: ·)
    else if c ∈ ",:+-".toList then (tokens? room depth s).map (.mark c :: ·)
    else if (c :: s).take 3 = ['.', '.', '.'] then
      (tokens? room depth (s.drop 2)).map (.word :: ·)
    else if c.isDigit || c = '.' then
      let run := numberRun (c = '0' && s.head?.any fun x => x = 'x' || x = 'X') false (c :: s)
      match number? run with
      | some t => (tokens? room depth ((c :: s).drop run.length)).map (t :: ·)
      | none => none
    else match text? (c :: s) with
      | some (t, rest) => (tokens? room depth rest).map (t :: ·)
      | none =>
        let word := (c :: s).takeWhile fun x => x.isAlphanum || x = '_'
        match wordTokens.lookup (String.ofList word) with
        | some t => (tokens? room depth ((c :: s).drop word.length)).map (t :: ·)
        | none => none

/-- What is known of a literal: whether it is a number, and with a sign or imaginary, and whether it
may be in a set. -/
structure Literal where
  isNumber : Bool := false
  isSigned : Bool := false
  isImaginary : Bool := false
  isKey : Bool := true

def skipTexts (bytes : Bool) : List Token → List Token
  | .text b :: ts => if b = bytes then skipTexts bytes ts else .text b :: ts
  | ts => ts

mutual

def sum? : (room : Nat) → List Token → Option (Literal × List Token)
  | 0, _ => none
  | room + 1, ts => do
    let (v, ts) ← literal? room ts
    match ts with
    | .mark c :: ts =>
      if c = '+' || c = '-' then
        let (w, ts) ← literal? room ts
        guard (v.isNumber && !v.isImaginary && w.isNumber && !w.isSigned && w.isImaginary)
        return ({}, ts)
      else return (v, .mark c :: ts)
    | ts => return (v, ts)

def literal? : (room : Nat) → List Token → Option (Literal × List Token)
  | 0, _ => none
  | room + 1, ts =>
    match ts with
    | .number i :: ts => some ({ isNumber := true, isImaginary := i }, ts)
    | .text b :: ts => some ({}, skipTexts b ts)
    | .word :: ts => some ({}, ts)
    | .emptySet :: .mark '(' :: .mark ')' :: ts => some ({ isKey := false }, ts)
    | .mark '(' :: .mark ')' :: ts => some ({}, ts)
    | .mark '\x7b' :: .mark '\x7d' :: ts => some ({ isKey := false }, ts)
    | .mark c :: ts =>
      if c = '+' || c = '-' then do
        let (v, ts) ← literal? room ts
        guard (v.isNumber && !v.isSigned)
        return ({ v with isSigned := true }, ts)
      else if c = '(' then do
        let (vs, comma, ts) ← items? room false ts
        match vs, comma, ts with
        | [v], false, .mark ')' :: ts => return (v, ts)
        | vs, _, .mark ')' :: ts => return ({ isKey := vs.all (·.isKey) }, ts)
        | _, _, _ => none
      else if c = '\x7b' then do
        let (vs, _, ts) ← items? room true ts
        match ts with
        | .mark '\x7d' :: ts =>
          guard (vs.all (·.isKey))
          return ({ isKey := false }, ts)
        | _ => none
      else none
    | _ => none

/-- Literals with commas between them, and whether there is a comma behind the last.  Inside braces
all of them or none have values, which stand behind colons. -/
def items? : (room : Nat) → (braces : Bool) → List Token →
    Option (List Literal × Bool × List Token)
  | 0, _, _ => none
  | room + 1, braces, ts => do
    let (v, ts) ← sum? room ts
    let (valued, ts) ← match braces, ts with
      | true, .mark ':' :: ts => (sum? room ts).map fun (_, ts) => (true, ts)
      | _, ts => some (false, ts)
    match ts with
    | .mark ',' :: ts =>
      match ts with
      | [] | .mark ')' :: _ | .mark '\x7d' :: _ => return ([v], true, ts)
      | ts =>
        guard (!braces || valued = startsEntry room ts)
        let (vs, comma, ts) ← items? room braces ts
        return (v :: vs, comma, ts)
    | ts => return ([v], false, ts)

def startsEntry : (room : Nat) → List Token → Bool
  | 0, _ => false
  | room + 1, ts => (sum? room ts).any fun (_, ts) => ts.head? = some (.mark ':')

end

def isLiteral (s : List Char) : Bool :=
  match tokens? (s.length + 1) 0 s with
  | none => false
  | some ts => (items? (4 * ts.length + 4) false ts).any fun (_, _, ts) => ts.isEmpty

def isNameChar (c : Char) : Bool := c.isAlphanum || c = '_' || c = '.' || 0x80 ≤ c.toNat

/-- Whether a text is an action: a name, a literal, or a name and literals in parentheses. -/
def isAction (s : List Char) : Bool :=
  let argument := s.dropWhile isNameChar
  if argument.isEmpty then true
  else if argument.head? = some '(' && argument.getLast? = some ')' && !argument.contains '\n' then
    isLiteral argument
  else isLiteral s

end Railroad.Markup.Argument
