import Railroad.Json
import Railroad.Members
import Railroad.Text.Read
import Railroad.Decimal.Reading

namespace Railroad

/-- What a reader of JSON takes beyond the standard: `named` floats such as `NaN`, numbers that
`overflow` a float and `wide` integers.  The last two limit the digits of an integer and how deep
arrays and objects nest. -/
structure JsonDialect where
  named : Bool
  overflow : Bool
  wide : Bool
  digits : Option Nat
  nesting : Option Nat

def strictJson : JsonDialect where
  named := false
  overflow := false
  wide := false
  digits := none
  nesting := some 1024

inductive JsonFault where
  | malformed
  | tooDeep
  deriving DecidableEq, Repr

def lenientJson : JsonDialect where
  named := true
  overflow := true
  wide := true
  digits := some integerDigitLimit
  nesting := some 984

namespace Json

def isSpace (c : Char) : Bool := c = ' ' || c = '\t' || c = '\n' || c = '\r'

def skipSpace (s : List Char) : List Char := s.dropWhile isSpace

theorem length_skipSpace (s : List Char) : (skipSpace s).length ≤ s.length :=
  (s.dropWhile_sublist isSpace).length_le

def hexDigit? (c : Char) : Option Nat :=
  if '0' ≤ c ∧ c ≤ '9' then some (c.toNat - '0'.toNat)
  else if 'a' ≤ c ∧ c ≤ 'f' then some (c.toNat - 'a'.toNat + 10)
  else if 'A' ≤ c ∧ c ≤ 'F' then some (c.toNat - 'A'.toNat + 10)
  else none

def hexUnit? (a b c d : Char) : Option Nat :=
  [a, b, c, d].foldl (fun n h => n.bind fun n => (hexDigit? h).map (16 * n + ·)) (some 0)

def escaped? (c : Char) : Option Char :=
  if c = '"' ∨ c = '\\' ∨ c = '/' then some c
  else if c = 'b' then some '\x08'
  else if c = 'f' then some '\x0c'
  else if c = 'n' then some '\n'
  else if c = 'r' then some '\r'
  else if c = 't' then some '\t'
  else none

def unitChar? (n : Nat) : Option Char :=
  if h : n.isValidChar then some (Char.ofNatAux n h) else none

def pairChar? (hi lo : Nat) : Option Char :=
  if 0xD800 ≤ hi ∧ hi < 0xDC00 ∧ 0xDC00 ≤ lo ∧ lo < 0xE000 then
    unitChar? (0x10000 + (hi - 0xD800) * 0x400 + (lo - 0xDC00))
  else none

def stringChar : (s : List Char) → Option (Read Char s)
  | '\\' :: 'u' :: a :: b :: c :: d :: s =>
    match (hexUnit? a b c d).bind unitChar? with
    | some x => some ⟨x, s, by simp only [List.length_cons]; omega⟩
    | none =>
      match s with
      | '\\' :: 'u' :: e :: f :: g :: h :: t =>
        ((hexUnit? a b c d).bind fun hi => (hexUnit? e f g h).bind (pairChar? hi)).map fun x =>
          ⟨x, t, by simp only [List.length_cons]; omega⟩
      | _ => none
  | '\\' :: c :: s => (escaped? c).map fun x => ⟨x, s, by simp only [List.length_cons]; omega⟩
  | c :: s =>
    if c = '"' ∨ c = '\\' ∨ c.toNat < 0x20 then none else some ⟨c, s, length_lt_cons⟩
  | [] => none

def stringRest (done : List Char) (s : List Char) : Option (Read String s) :=
  match s with
  | '"' :: t => some ⟨String.ofList done.reverse, t, length_lt_cons⟩
  | s =>
    match stringChar s with
    | none => none
    | some c =>
      (stringRest (c.value :: done) c.rest).map (·.ofShorter (Nat.le_of_lt c.shorter))
termination_by s.length
decreasing_by exact c.shorter

def isNumberChar (c : Char) : Bool :=
  c.isDigit || c = '-' || c = '+' || c = '.' || c = 'e' || c = 'E'

def wholeOk : List Char → Bool
  | [] => false
  | ['0'] => true
  | c :: _ => c ≠ '0'

def ofInteger (dialect : JsonDialect) (n : Int) : Option (Json Float) :=
  if dialect.wide ∨ (-0x8000000000000000 ≤ n ∧ n < 0x10000000000000000) then some (.integer n)
  else ofFloat ((Decimal.mk n.natAbs 0).toFloat (n < 0))
where
  ofFloat (x : Float) : Option (Json Float) :=
    if x.isFinite || dialect.overflow then some (.number x) else none

def number? (dialect : JsonDialect) (text : List Char) : Option (Json Float) :=
  let (negative, s) := match text with
    | '-' :: s => (true, s)
    | s => (false, s)
  let (whole, s) := splitDigits s
  if !wholeOk whole then none
  else match s with
    | [] =>
      let n : Int := (Decimal.ofDigits whole [] 0).coefficient
      if dialect.digits.any (· < whole.length) then none
      else ofInteger dialect (if negative then -n else n)
    | '.' :: t =>
      let (fraction, t) := splitDigits t
      if fraction.isEmpty then none
      else (exponentPart? t).bind fun e =>
        ofInteger.ofFloat dialect ((Decimal.ofDigits whole fraction e).toFloat negative)
    | t => (exponentPart? t).bind fun e =>
        ofInteger.ofFloat dialect ((Decimal.ofDigits whole [] e).toFloat negative)

def words (dialect : JsonDialect) : List (List Char × Json Float) :=
  [("null".toList, .null), ("true".toList, .bool true), ("false".toList, .bool false)] ++
    if dialect.named then
      [("NaN".toList, .number (0.0 / 0.0)), ("Infinity".toList, .number (1.0 / 0.0)),
        ("-Infinity".toList, .number (-(1.0 / 0.0)))]
    else []

/-- A value without parts at the very start of a text: a word, or the longest run of characters of a
number. -/
def atom (dialect : JsonDialect) (s : List Char) : Option (Read (Json Float) s) :=
  match s with
  | [] => none
  | c :: t =>
    match (words dialect).find? fun w => w.1.isPrefixOf (c :: t) with
    | some (w, v) =>
      some ⟨v, t.drop (w.length - 1), by simp only [List.length_drop, List.length_cons]; omega⟩
    | none =>
      if isNumberChar c then
        (number? dialect (c :: t.takeWhile isNumberChar)).map fun v =>
          ⟨v, t.dropWhile isNumberChar,
            Nat.lt_succ_of_le (t.dropWhile_sublist isNumberChar).length_le⟩
      else none

def orMalformed {β : Type} : Option β → Except JsonFault β
  | some x => .ok x
  | none => .error .malformed

mutual

/-- Reads a value in which at most `room` arrays and objects stand within each other. -/
def value (dialect : JsonDialect) (room : Nat) (s : List Char) :
    Except JsonFault (Read (Json Float) s) :=
  have le := length_skipSpace s
  match h : skipSpace s with
  | '"' :: t =>
    (orMalformed (stringRest [] t)).map fun r =>
      (r.map Json.string).ofShorter (by simp_all; omega)
  | '[' :: t =>
    have := length_skipSpace t
    if room = 0 then .error .tooDeep
    else
      match h' : skipSpace t with
      | ']' :: u => .ok ⟨.array [], u, by simp_all; omega⟩
      | _ =>
        (elements dialect (room - 1) t).map fun r =>
          (r.map Json.array).ofShorter (by simp_all; omega)
  | '\x7b' :: t =>
    have := length_skipSpace t
    if room = 0 then .error .tooDeep
    else
      match h' : skipSpace t with
      | '\x7d' :: u => .ok ⟨.object [], u, by simp_all; omega⟩
      | _ =>
        (members dialect (room - 1) t).map fun r =>
          (r.map fun ms => .object (Members.distinct ms)).ofShorter (by simp_all; omega)
  | t => (orMalformed (atom dialect t)).map fun r => r.ofShorter (by simp_all)
termination_by (s.length, 0)
decreasing_by
  all_goals simp_all only [List.length_cons]; omega

def elements (dialect : JsonDialect) (room : Nat) (s : List Char) :
    Except JsonFault (Read (List (Json Float)) s) :=
  match value dialect room s with
  | .error e => .error e
  | .ok v =>
    have := length_skipSpace v.rest
    have := v.shorter
    match h : skipSpace v.rest with
    | ']' :: t => .ok ⟨[v.value], t, by simp_all; omega⟩
    | ',' :: t =>
      (elements dialect room t).map fun r => (r.map (v.value :: ·)).ofShorter (by simp_all; omega)
    | _ => .error .malformed
termination_by (s.length, 1)
decreasing_by
  · exact .right _ Nat.zero_lt_one
  · simp_all only [List.length_cons]; omega

def members (dialect : JsonDialect) (room : Nat) (s : List Char) :
    Except JsonFault (Read (List (String × Json Float)) s) :=
  have := length_skipSpace s
  match h : skipSpace s with
  | '"' :: t =>
    match stringRest [] t with
    | none => .error .malformed
    | some key =>
      have := length_skipSpace key.rest
      have := key.shorter
      match h' : skipSpace key.rest with
      | ':' :: u =>
        match value dialect room u with
        | .error e => .error e
        | .ok v =>
          have := length_skipSpace v.rest
          have := v.shorter
          match h'' : skipSpace v.rest with
          | '\x7d' :: w => .ok ⟨[(key.value, v.value)], w, by simp_all; omega⟩
          | ',' :: w =>
            (members dialect room w).map fun r =>
              (r.map ((key.value, v.value) :: ·)).ofShorter (by simp_all; omega)
          | _ => .error .malformed
      | _ => .error .malformed
  | _ => .error .malformed
termination_by (s.length, 1)
decreasing_by
  all_goals simp_all only [List.length_cons]; omega

end

def parse (dialect : JsonDialect) (s : List Char) : Except JsonFault (Json Float) := do
  let v ← value dialect (dialect.nesting.getD s.length) s
  if (skipSpace v.rest).isEmpty then return v.value else throw .malformed

end Json

end Railroad
