import Railroad.Text.Space

namespace Railroad

def words (s : List Char) : List (List Char) :=
  let (first, others) := s.foldr (fun c (word, rest) =>
    if isSpace c then ([], if word.isEmpty then rest else word :: rest) else (c :: word, rest))
    ([], [])
  if first.isEmpty then others else first :: others

/-- The words of a text with the space behind each of them, and before the first of them.  A text
without words has no parts. -/
def spacedWords (s : List Char) : List (List Char) :=
  match s.splitBy fun a b => !isSpace a || isSpace b with
  | [] => []
  | part :: parts =>
    if part.all isSpace then
      match parts with
      | [] => []
      | word :: others => (part ++ word) :: others
    else part :: parts

def trimEnd (s : List Char) : List Char := (s.reverse.dropWhile isSpace).reverse

end Railroad
