import Railroad.Rule

namespace Railroad

def isBlank (c : Char) : Bool := c = ' ' || c = '\t' || c = '\r' || c = '\n'

def skipBlanks (s : List Char) : List Char := s.dropWhile isBlank

def isNameStart (c : Char) : Bool := c.isAlphanum

def isNameChar (c : Char) : Bool := c.isAlphanum || c = '_'

def isQuote (c : Char) : Bool := c = '"' || c = '\'' || c = '?'

structure Identifier where
  name : List Char
  rest : List Char

def Identifier.read? : List Char → Option Identifier
  | c :: s =>
    if isNameStart c then some ⟨c :: s.takeWhile isNameChar, s.dropWhile isNameChar⟩ else none
  | [] => none

structure Quoted where
  delimiter : Char
  content : List Char
  rest : List Char

/-- A string runs to the next occurrence of its delimiter and holds at least one character. -/
def Quoted.read? : List Char → Option Quoted
  | d :: s =>
    if isQuote d then
      match s.takeWhile (· ≠ d), s.dropWhile (· ≠ d) with
      | c :: content, _ :: rest => some ⟨d, c :: content, rest⟩
      | _, _ => none
    else none
  | [] => none

def Quoted.literal (q : Quoted) : List Char := q.delimiter :: (q.content ++ [q.delimiter])

def Quoted.style (q : Quoted) : TerminalStyle := if q.delimiter = '?' then .special else .normal

theorem length_skipBlanks (s : List Char) : (skipBlanks s).length ≤ s.length :=
  (s.dropWhile_sublist isBlank).length_le

theorem Identifier.length_rest {s : List Char} {i : Identifier} (h : read? s = some i) :
    i.rest.length < s.length := by
  cases s with
  | nil => simp [read?] at h
  | cons c s =>
    simp only [read?] at h
    split at h
    · cases h
      exact Nat.lt_succ_of_le (s.dropWhile_sublist isNameChar).length_le
    · cases h

theorem Quoted.length_rest {s : List Char} {q : Quoted} (h : read? s = some q) :
    q.rest.length < s.length := by
  cases s with
  | nil => simp [read?] at h
  | cons d s =>
    simp only [read?] at h
    split at h
    · split at h
      · rename_i e
        cases h
        have := (s.dropWhile_sublist (· ≠ d)).length_le
        simp only [e, List.length_cons] at this ⊢
        omega
      · cases h
    · cases h

end Railroad
