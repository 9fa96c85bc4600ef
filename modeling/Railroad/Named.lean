import Railroad.Text.Literal

namespace Railroad

class Named (β : Type) where
  family : String
  all : List β
  name : β → String

structure UnknownName where
  family : String
  name : String

def UnknownName.message (e : UnknownName) : String :=
  showText e.name ++ " is not a valid " ++ e.family

def Named.find (β : Type) [Named β] (name : String) : Except UnknownName β :=
  match (Named.all (β := β)).find? (Named.name · = name) with
  | some x => .ok x
  | none => .error ⟨Named.family β, name⟩

end Railroad
