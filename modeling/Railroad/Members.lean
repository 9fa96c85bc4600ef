namespace Railroad

abbrev Members (β : Type) := List (String × β)

namespace Members

variable {β : Type}

def get? (key : String) (ms : Members β) : Option β := ms.lookup key

/-- A key that is there keeps its place when it gets another value. -/
def put (key : String) (v : β) : Members β → Members β
  | [] => [(key, v)]
  | (k, w) :: ms => if k = key then (k, v) :: ms else (k, w) :: put key v ms

def distinct (ms : Members β) : Members β := ms.foldl (fun ms (key, v) => put key v ms) []

end Members

end Railroad
