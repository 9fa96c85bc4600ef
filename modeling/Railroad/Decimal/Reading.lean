import Railroad.Decimal.Digits

namespace Railroad

namespace Decimal

/-- The nearest float.  Exponents far outside the range of floats are not expanded. -/
def toFloat (d : Decimal) (negative : Bool) : Float :=
  let magnitude :=
    if d.coefficient = 0 ∨ d.magnitude < -400 then 0.0
    else if 400 < d.magnitude then 1.0 / 0.0
    else Float.ofScientific d.coefficient (d.exponent < 0) d.exponent.natAbs
  if negative then -magnitude else magnitude

def ofDigits (whole fraction : List Char) (exponent : Int) : Decimal :=
  ⟨(whole ++ fraction).foldl (fun n c => 10 * n + (c.toNat - '0'.toNat)) 0,
    exponent - fraction.length⟩

end Decimal

def integerDigitLimit : Nat := 4300

def splitSign : List Char → Bool × List Char
  | '-' :: s => (true, s)
  | '+' :: s => (false, s)
  | s => (false, s)

def splitDigits (s : List Char) : List Char × List Char :=
  (s.takeWhile Char.isDigit, s.dropWhile Char.isDigit)

def exponentPart? : List Char → Option Int
  | [] => some 0
  | e :: s =>
    if e = 'e' ∨ e = 'E' then
      let (negative, ds) := splitSign s
      match splitDigits ds with
      | ([], _) | (_, _ :: _) => none
      | (ds, []) =>
        let n : Int := (Decimal.ofDigits ds [] 0).coefficient
        some (if negative then -n else n)
    else none

def decimalFloat? (s : List Char) : Option Float :=
  let (negative, s) := splitSign s
  let (whole, s) := splitDigits s
  let (fraction, s) := match s with
    | '.' :: s => splitDigits s
    | s => ([], s)
  if whole.isEmpty && fraction.isEmpty then none
  else (exponentPart? s).map fun e => (Decimal.ofDigits whole fraction e).toFloat negative

def float? (s : List Char) : Option Float :=
  let (negative, name) := splitSign s
  let name := String.ofList (name.map Char.toLower)
  if name = "inf" ∨ name = "infinity" then some (if negative then -(1.0 / 0.0) else 1.0 / 0.0)
  else if name = "nan" then some (0.0 / 0.0)
  else decimalFloat? s

end Railroad
