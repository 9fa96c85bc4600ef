import Railroad.Json.Reader
import Railroad.Settings.Value
import Railroad.Text.Lines

namespace Railroad.Document

inductive ScalarFault where
  | integerTooLong (digits : Nat)
  | noDigits (base : Nat)
  | calendar (fault : CalendarFault)
  deriving DecidableEq, Repr

def ScalarFault.message : ScalarFault → String
  | integerTooLong digits =>
    "Exceeds the limit (" ++ toString integerDigitLimit ++ " digits) for integer string " ++
      "conversion: value has " ++ toString digits ++
      " digits; use sys.set_int_max_str_digits() to increase the limit"
  | noDigits base => "invalid literal for int() with base " ++ toString base ++ ": ''"
  | calendar fault => fault.message

abbrev Reading (β : Type) := Option (Except ScalarFault β)

def wordValues : List (String × SettingValue) :=
  [("null", .null), ("true", .bool true), ("yes", .bool true), ("on", .bool true),
    ("false", .bool false), ("no", .bool false), ("off", .bool false)].flatMap fun (w, v) =>
      [(w, v), (w.capitalize, v), (w.toUpper, v)]

def isDigitsOf (base : Nat) (s : List Char) : Bool :=
  s.all fun c => c = '_' || (Json.hexDigit? c).any (· < base)

def ofDigits (base : Nat) (s : List Char) : Nat :=
  s.foldl (fun n c => ((Json.hexDigit? c).map (base * n + ·)).getD n) 0

def based (base : Nat) (s : List Char) : Reading Nat :=
  if s.isEmpty || !isDigitsOf base s then none
  else if s.all (· = '_') then some (.error (.noDigits base))
  else some (.ok (ofDigits base s))

def decimal (s : List Char) : Except ScalarFault Nat :=
  let digits := (s.filter (· ≠ '_')).length
  if integerDigitLimit < digits then .error (.integerTooLong digits) else .ok (ofDigits 10 s)

def isSixtieth : List Char → Bool
  | [d] => d.isDigit
  | [d, e] => '0' ≤ d && d ≤ '5' && e.isDigit
  | _ => false

/-- Integers are decimal, or binary, octal or hexadecimal behind `0b`, `0` and `0x`.  Colons stand
between a number and the sixtieths of its unit. -/
def natural? : List Char → Reading Nat
  | '0' :: 'b' :: s => based 2 s
  | '0' :: 'x' :: s => based 16 s
  | '0' :: s => if isDigitsOf 8 s then some (.ok (ofDigits 8 s)) else none
  | s =>
    match splitAt ':' s with
    | whole :: parts =>
      if (whole.head?.any Char.isDigit) && isDigitsOf 10 whole && parts.all isSixtieth then
        some ((decimal whole).map fun n => parts.foldl (fun n p => 60 * n + ofDigits 10 p) n)
      else none
    | [] => none

def integer? (s : List Char) : Reading Int :=
  let (negative, t) := splitSign s
  (natural? t).map (·.map fun n => if negative then -n else n)

def isWhole (s : List Char) : Bool := s.head?.any Char.isDigit && isDigitsOf 10 s

def isExponent : List Char → Bool
  | [] => true
  | e :: sign :: ds =>
    (e = 'e' || e = 'E') && (sign = '+' || sign = '-') && !ds.isEmpty && ds.all Char.isDigit
  | _ => false

/-- A number with a point.  Only one with digits in front of the point may have a sign. -/
def isPointed (signed : Bool) (s : List Char) : Bool :=
  let isPart := fun c => c ≠ 'e' && c ≠ 'E'
  match splitAt '.' (s.takeWhile isPart) with
  | [whole, fraction] =>
    isDigitsOf 10 fraction && isExponent (s.dropWhile isPart) &&
      (isWhole whole || whole.isEmpty && isWhole fraction && !signed)
  | _ => false

def isPointedCount (s : List Char) : Bool :=
  match splitAt ':' s with
  | whole :: part :: parts =>
    match splitAt '.' ((part :: parts).getLast (List.cons_ne_nil _ _)) with
    | [last, fraction] =>
      isWhole whole && (part :: parts).dropLast.all isSixtieth && isSixtieth last &&
        isDigitsOf 10 fraction
    | _ => false
  | _ => false

def sumSixtieths (parts : List Float) : Float :=
  (parts.reverse.foldl (fun (sum, unit) x => (sum + x * Float.ofNat unit, 60 * unit))
    ((0.0 : Float), 1)).1

def float? (s : List Char) : Option Float :=
  let (negative, t) := splitSign s
  let sign : Float := if negative then -1.0 else 1.0
  if [".inf".toList, ".Inf".toList, ".INF".toList].contains t then some (sign / 0.0)
  else if [".nan".toList, ".NaN".toList, ".NAN".toList].contains s then some (0.0 / 0.0)
  else
    let body := t.filter (· ≠ '_')
    if isPointed (s ≠ t) t then (decimalFloat? body).map (sign * ·)
    else if isPointedCount t then
      ((splitAt ':' body).mapM decimalFloat?).map fun parts => sign * sumSixtieths parts
    else none

def shortNumber? (s : List Char) : Option (Nat × List Char) :=
  match s with
  | c :: d :: s =>
    if !c.isDigit then none
    else if d.isDigit then some (ofDigits 10 [c, d], s) else some (ofDigits 10 [c], d :: s)
  | [c] => if c.isDigit then some (ofDigits 10 [c], []) else none
  | [] => none

def behind? (c : Char) : List Char → Option (List Char)
  | d :: s => if c = d then some s else none
  | [] => none

def colonNumber? : List Char → Option (Nat × List Char)
  | ':' :: c :: d :: s => if c.isDigit && d.isDigit then some (ofDigits 10 [c, d], s) else none
  | _ => none

def isGap (c : Char) : Bool := c = ' ' || c = '\t'

/-- The distance from UTC at the end of a moment: `Z`, or hours with or without minutes behind a
sign. -/
def offset? (s : List Char) : Option (Option Int) :=
  match s, s.dropWhile isGap with
  | [], _ => some none
  | _, ['Z'] => some (some 0)
  | _, sign :: s =>
    if sign ≠ '+' && sign ≠ '-' then none
    else do
      let (hours, s) ← shortNumber? s
      let minutes ← match s with
        | [] => some 0
        | s => match colonNumber? s with
          | some (minutes, []) => some minutes
          | _ => none
      let n : Int := hours * 60 + minutes
      return some (if sign = '-' then -n else n)
  | _, [] => none

def microseconds (ds : List Char) : Nat := ofDigits 10 ((ds ++ List.replicate 6 '0').take 6)

def time? (s : List Char) : Option (Time × Option Int) := do
  let (hour, s) ← shortNumber? s
  let (minute, s) ← colonNumber? s
  let (second, s) ← colonNumber? s
  let (fraction, s) := match s with
    | '.' :: s => splitDigits s
    | s => ([], s)
  return (⟨hour, minute, second, microseconds fraction⟩, ← offset? s)

def moment? (s : List Char) : Option (Except ScalarFault SettingValue) := do
  let year := s.take 4
  guard (year.length = 4 && year.all Char.isDigit)
  let (month, rest) ← behind? '-' (s.drop 4) >>= shortNumber?
  let (day, rest) ← behind? '-' rest >>= shortNumber?
  let date : Date := ⟨ofDigits 10 year, month, day⟩
  match rest with
  | [] =>
    guard (s.length = 10)
    return (date.check.map .date).mapError .calendar
  | c :: t =>
    guard (c = 'T' || c = 't' || isGap c)
    let (time, offset) ← time? (if isGap c then rest.dropWhile isGap else t)
    return ((Moment.mk date time offset).check.map .moment).mapError .calendar

/-- What a plain text stands for.  An equals sign and two angle brackets stand for nothing that
there is. -/
def plainValue (s : List Char) : Except ScalarFault SettingValue :=
  if [[], ['~']].contains s then .ok .null
  else match wordValues.lookup (String.ofList s), float? s, integer? s, moment? s with
    | some v, _, _, _ => .ok v
    | none, some x, _, _ => .ok (.number x)
    | none, none, some n, _ => n.map .integer
    | none, none, none, some v => v
    | none, none, none, none => .ok (.text (String.ofList s))

end Railroad.Document
