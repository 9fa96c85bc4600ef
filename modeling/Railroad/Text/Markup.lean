import Railroad.Text.Emoji

namespace Railroad.Markup

def isTagStart (c : Char) : Bool := ('a' ≤ c && c ≤ 'z') || c = '#' || c = '/' || c = '@'

def isBracket (c : Char) : Bool := c = '[' || c = ']'

def tag? : List Char → Option (List Char × List Char)
  | '[' :: c :: s =>
    if isTagStart c then
      match s.dropWhile (!isBracket ·) with
      | ']' :: rest => some ('[' :: c :: (s.takeWhile (!isBracket ·) ++ [']']), rest)
      | _ => none
    else none
  | _ => none

theorem length_tag? {s text rest : List Char} (h : tag? s = some (text, rest)) :
    rest.length < s.length := by
  unfold tag? at h
  split at h
  · rename_i c s
    have := (s.dropWhile_sublist (!isBracket ·)).length_le
    split at h
    · split at h
      · rename_i e
        cases h
        simp only [e, List.length_cons] at this ⊢
        omega
      · cases h
    · cases h
  · cases h

/-- A tag, a character or the end of a text, each with the number of backslashes in front of it. -/
inductive Piece where
  | tag (slashes : Nat) (text : List Char)
  | char (slashes : Nat) (c : Char)
  | ending (slashes : Nat)

def pieces (slashes : Nat) : List Char → List Piece
  | [] => [.ending slashes]
  | c :: s =>
    match h : tag? (c :: s) with
    | some (text, rest) => .tag slashes text :: pieces 0 rest
    | none => if c = '\\' then pieces (slashes + 1) s else .char slashes c :: pieces 0 s
termination_by s => s.length
decreasing_by
  · exact length_tag? h
  · exact Nat.lt_succ_self _
  · exact Nat.lt_succ_self _

def backslashes (n : Nat) : List Char := List.replicate n '\\'

def Piece.escaped : Piece → List Char
  | tag n text => backslashes (2 * n + 1) ++ text
  | char n c => backslashes n ++ [c]
  | ending n => backslashes (if n = 1 then 2 else n)

/-- How the pieces behind a run of text, which stands backwards, are printed together with it.
Styles leave no trace in the text; the codes of emoji do not go over them. -/
def shownFrom (run : List Char) : List Piece → List Char
  | [] => Emoji.replace run.reverse
  | .tag n text :: ps =>
    Emoji.replace run.reverse ++ backslashes (n / 2) ++
      (if n % 2 = 1 then Emoji.replace text else []) ++ shownFrom [] ps
  | .char n c :: ps => shownFrom (c :: (backslashes (if c = '[' then n - 1 else n) ++ run)) ps
  | .ending n :: ps => shownFrom (backslashes n ++ run) ps

def escape (s : String) : String := String.ofList ((pieces 0 s.toList).flatMap Piece.escaped)

def shown (s : String) : List Char := shownFrom [] (pieces 0 s.toList)

def styled (style text : String) : String := "[" ++ style ++ "]" ++ escape text ++ "[/]"

end Railroad.Markup
