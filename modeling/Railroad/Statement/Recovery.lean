import Railroad.Rule.Token

namespace Railroad

/-- The text behind the next `d`, or the whole text if there is none: a quote without a partner
opens nothing. -/
def behindQuote (d : Char) (s : List Char) : List Char :=
  match s.dropWhile (· ≠ d) with
  | [] => s
  | _ :: rest => rest

theorem length_behindQuote (d : Char) (s : List Char) : (behindQuote d s).length ≤ s.length := by
  have := (s.dropWhile_sublist (· ≠ d)).length_le
  unfold behindQuote
  split
  · exact Nat.le_refl _
  · rename_i e
    simp only [e, List.length_cons] at this
    omega

def lastInk (previous : Option Char) (c : Char) : Option Char :=
  if isBlank c then previous else some c

/-- Whether `c` opens a quoted string when `previous` is the last character before it that is not
blank.  A question mark behind a closing parenthesis is a suffix. -/
def opensQuote (previous : Option Char) (c : Char) : Bool :=
  isQuote c && !(c = '?' && previous = some ')')

def skipStatementFrom (previous : Option Char) : List Char → List Char
  | [] => []
  | c :: s =>
    if c = ';' then skipBlanks s
    else if opensQuote previous c then skipStatementFrom (some c) (behindQuote c s)
    else skipStatementFrom (lastInk previous c) s
termination_by s => s.length
decreasing_by
  · exact Nat.lt_succ_of_le (length_behindQuote c s)
  · exact Nat.lt_succ_self _

def skipStatement (s : List Char) : List Char := skipStatementFrom none s

theorem length_skipStatementFrom (previous : Option Char) (s : List Char) :
    (skipStatementFrom previous s).length ≤ s.length - 1 := by
  fun_induction skipStatementFrom previous s with
  | case1 => exact Nat.le_refl _
  | case2 _ s => exact length_skipBlanks s
  | case3 previous c s _ _ ih =>
    have := length_behindQuote c s
    simp only [List.length_cons]
    omega
  | case4 previous c s _ _ ih => simp only [List.length_cons]; omega

theorem length_skipStatement {s : List Char} (h : s ≠ []) :
    (skipStatement s).length < s.length := by
  have := length_skipStatementFrom none s
  have := List.length_pos_iff.2 h
  unfold skipStatement
  omega

end Railroad
