namespace Railroad

/-- Layout needs sums, halves and comparisons alone, so it is written once for floats and
fractions. -/
class Scalar (α : Type) extends Add α, Sub α, Mul α, Div α, Zero α, LT α, LE α where
  ofNat : Nat → α
  decidableLT : DecidableLT α
  decidableLE : DecidableLE α

class Numeral (α : Type) where
  report : α → String
  file : α → String
  brief : α → String

namespace Scalar

variable {α : Type} [Scalar α]

instance : DecidableLT α := decidableLT

instance : DecidableLE α := decidableLE

def half (x : α) : α := x / ofNat 2

def twice (x : α) : α := x + x

/-- The first number unless the second is greater, so that of two equal or unordered numbers the
first stands. -/
def max (x y : α) : α := if x < y then y else x

def abs (x : α) : α := if 0 < x then x else 0 - x

def greatest (x : α) (xs : List α) : α := xs.foldl max x

end Scalar

instance : Scalar Float where
  zero := 0.0
  ofNat := Float.ofNat
  decidableLT := inferInstance
  decidableLE := inferInstance

instance : Scalar Rat where
  add := Rat.add
  sub := Rat.sub
  mul := Rat.mul
  div := Rat.div
  zero := Rat.ofInt 0
  lt x y := Rat.blt x y
  le x y := Rat.blt y x = false
  ofNat n := Rat.ofInt n
  decidableLT _ _ := inferInstanceAs (Decidable (_ = true))
  decidableLE _ _ := inferInstanceAs (Decidable (_ = false))

end Railroad
