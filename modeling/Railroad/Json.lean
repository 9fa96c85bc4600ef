namespace Railroad

inductive Json (α : Type) where
  | null
  | bool (b : Bool)
  | integer (n : Int)
  | number (x : α)
  | string (s : String)
  | array (elements : List (Json α))
  | object (members : List (String × Json α))
  deriving BEq, Inhabited

namespace Json

inductive Unwritable where
  | integerTooLarge
  | nestedTooDeeply
  deriving DecidableEq, Repr

def Unwritable.message : Unwritable → String
  | integerTooLarge => "Integer exceeds 64-bit range"
  | nestedTooDeeply => "Recursion limit reached"

variable {α : Type}

/-- An object is left as it is; all other values count as an object without members. -/
def asObject : Json α → Json α
  | object members => object members
  | _ => object []

end Json

end Railroad
