import Railroad.Scalar
import Railroad.Decimal.Digits

namespace Railroad

/-- Numbers are written positionally while the exponent of their first digit is from `least` to
before `limit`, and with an exponent outside that range. -/
structure DecimalNotation where
  least : Int
  limit : Int
  pointed : Bool
  exponentWidth : Nat
  infinity : String
  negativeInfinity : String
  nan : String

namespace DecimalNotation

def padLeft (width : Nat) (s : List Char) : List Char := List.replicate (width - s.length) '0' ++ s

def pointAt (n : DecimalNotation) (digits : List Char) (whole : Nat) : List Char :=
  match digits.drop whole with
  | [] =>
    digits ++ List.replicate (whole - digits.length) '0' ++ if n.pointed then ['.', '0'] else []
  | fraction => digits.take whole ++ '.' :: fraction

def positional (n : DecimalNotation) (d : Decimal) : List Char :=
  if d.magnitude < 0 then
    '0' :: '.' :: (List.replicate (d.magnitude.natAbs - 1) '0' ++ d.digits)
  else n.pointAt d.digits (d.magnitude.toNat + 1)

def scientific (n : DecimalNotation) (d : Decimal) : List Char :=
  let mantissa := match d.digits with
    | first :: [] => [first]
    | first :: others => first :: '.' :: others
    | [] => []
  let sign := if d.magnitude < 0 then '-' else '+'
  mantissa ++ 'e' :: sign :: padLeft n.exponentWidth (Nat.toDigits 10 d.magnitude.natAbs)

def magnitudeText (n : DecimalNotation) (d : Decimal) : List Char :=
  if n.least ≤ d.magnitude ∧ d.magnitude < n.limit then n.positional d else n.scientific d

def write (n : DecimalNotation) (digits : Binary → Decimal) (x : Float) : String :=
  match classify x with
  | .nan => n.nan
  | .infinite => if isNegative x then n.negativeInfinity else n.infinity
  | .finite b =>
    let text := String.ofList (n.magnitudeText (digits b))
    if isNegative x then "-" ++ text else text

end DecimalNotation

def reportNotation : DecimalNotation := ⟨-4, 16, true, 2, "inf", "-inf", "nan"⟩

def fileNotation : DecimalNotation := ⟨-5, 16, true, 1, "null", "null", "null"⟩

def outlineNotation : DecimalNotation := ⟨-4, 6, false, 2, "inf", "-inf", "nan"⟩

instance : Numeral Float where
  report := reportNotation.write Binary.shortest
  file := fileNotation.write Binary.shortest
  brief := outlineNotation.write (Binary.rounded · 6)

end Railroad
