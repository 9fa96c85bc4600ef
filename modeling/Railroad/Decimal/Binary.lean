namespace Railroad

structure Fraction where
  num : Nat
  den : Nat
  deriving Repr

def Fraction.dyadic (m : Nat) (e : Int) : Fraction :=
  if e < 0 then ⟨m, Nat.pow 2 e.natAbs⟩ else ⟨m * Nat.pow 2 e.toNat, 1⟩

/-- The magnitude `significand · 2^exponent` of a finite float.  `boundary` is set where the next
float below is half as far as the next above: at the least significand of an exponent. -/
structure Binary where
  significand : Nat
  exponent : Int
  boundary : Bool
  deriving Repr

inductive FloatClass where
  | finite (magnitude : Binary)
  | infinite
  | nan

def isNegative (x : Float) : Bool := x.toBits >>> 63 = 1

def firstSignificand : Nat := Nat.pow 2 52

def classify (x : Float) : FloatClass :=
  let bits := x.toBits.toNat
  let stored : Nat := bits % firstSignificand
  let biased : Nat := bits / firstSignificand % 2048
  if biased = 2047 then if stored = 0 then .infinite else .nan
  else if biased = 0 then .finite ⟨stored, -1074, false⟩
  else .finite ⟨firstSignificand + stored, (biased : Int) - 1075, stored = 0 && 1 < biased⟩

namespace Binary

def value (b : Binary) : Fraction := .dyadic b.significand b.exponent

def low (b : Binary) : Fraction :=
  .dyadic (if b.boundary then 4 * b.significand - 1 else 4 * b.significand - 2) (b.exponent - 2)

def high (b : Binary) : Fraction := .dyadic (4 * b.significand + 2) (b.exponent - 2)

def closed (b : Binary) : Bool := b.significand % 2 = 0

end Binary

end Railroad
