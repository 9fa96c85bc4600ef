import Railroad.Decimal.Binary

namespace Railroad

structure Decimal where
  coefficient : Nat
  exponent : Int
  deriving DecidableEq, Repr

namespace Decimal

def digits (d : Decimal) : List Char := Nat.toDigits 10 d.coefficient

def magnitude (d : Decimal) : Int := d.exponent + d.digits.length - 1

def trim (d : Decimal) : Decimal :=
  if h : d.coefficient ≠ 0 ∧ d.coefficient % 10 = 0 then
    trim ⟨d.coefficient / 10, d.exponent + 1⟩
  else d
termination_by d.coefficient
decreasing_by exact Nat.div_lt_self (Nat.pos_of_ne_zero h.1) (by decide)

def value (d : Decimal) : Fraction :=
  if d.exponent < 0 then ⟨d.coefficient, Nat.pow 10 d.exponent.natAbs⟩
  else ⟨d.coefficient * Nat.pow 10 d.exponent.toNat, 1⟩

end Decimal

namespace Fraction

def lt (x y : Fraction) : Bool := x.num * y.den < y.num * x.den

def le (x y : Fraction) : Bool := x.num * y.den ≤ y.num * x.den

def dist (x y : Fraction) : Fraction :=
  let a := x.num * y.den
  let b := y.num * x.den
  ⟨(a - b) + (b - a), x.den * y.den⟩

def floorAt (x : Fraction) (e : Int) : Nat :=
  if e < 0 then x.num * Nat.pow 10 e.natAbs / x.den else x.num / (x.den * Nat.pow 10 e.toNat)

def magnitude (x : Fraction) : Int :=
  if x.den ≤ x.num then ((Nat.toDigits 10 (x.num / x.den)).length : Int) - 1
  else -((Nat.toDigits 10 ((x.den - 1) / x.num)).length : Int)

/-- Of the two multiples of `10^e` next to the number the nearer, of two equally near the one with
an even count. -/
def nearestAt (x : Fraction) (e : Int) : Decimal :=
  let n := x.floorAt e
  let below := x.dist (Decimal.value ⟨n, e⟩)
  let above := x.dist (Decimal.value ⟨n + 1, e⟩)
  if below.lt above || (below.le above && n % 2 = 0) then ⟨n, e⟩ else ⟨n + 1, e⟩

end Fraction

namespace Binary

def reads (b : Binary) (d : Decimal) : Bool :=
  if b.closed then b.low.le d.value && d.value.le b.high
  else b.low.lt d.value && d.value.lt b.high

/-- The multiple of `10^e` that reads back as the number, if either neighbour does, and the nearer
of them if both do. -/
def readableAt (b : Binary) (e : Int) : Option Decimal :=
  let n := b.value.floorAt e
  match b.reads ⟨n, e⟩, b.reads ⟨n + 1, e⟩ with
  | true, true => some (b.value.nearestAt e)
  | true, false => some ⟨n, e⟩
  | false, true => some ⟨n + 1, e⟩
  | false, false => none

def shortestFrom (b : Binary) (e : Int) : (count : Nat) → Decimal
  | 0 => b.value.nearestAt e
  | count + 1 => (b.readableAt e).getD (shortestFrom b (e - 1) count)

/-- The decimal number with the fewest digits that reads back as this one, and of those the nearest.
Seventeen digits always do. -/
def shortest (b : Binary) : Decimal :=
  if b.significand = 0 then ⟨0, 0⟩ else (b.shortestFrom b.value.magnitude 16).trim

def rounded (b : Binary) (count : Nat) : Decimal :=
  if b.significand = 0 then ⟨0, 0⟩
  else (b.value.nearestAt (b.value.magnitude - count + 1)).trim

end Binary

end Railroad
