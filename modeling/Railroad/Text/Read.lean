namespace Railroad

theorem length_lt_cons {c : Char} {s : List Char} : s.length < (c :: s).length :=
  Nat.lt_succ_self s.length

/-- What is read takes a character at least, so reading in a loop comes to an end. -/
structure Read (β : Type) (s : List Char) where
  value : β
  rest : List Char
  shorter : rest.length < s.length

namespace Read

variable {β γ : Type} {s t : List Char}

def ofShorter (r : Read β s) (h : s.length ≤ t.length) : Read β t :=
  ⟨r.value, r.rest, Nat.lt_of_lt_of_le r.shorter h⟩

def map (f : β → γ) (r : Read β s) : Read γ s := ⟨f r.value, r.rest, r.shorter⟩

end Read

end Railroad
