import Railroad.Text.Case
import Railroad.Text.Emoji.Table
import Railroad.Text.Words

namespace Railroad.Emoji

def tableWords : List (List Char) := words emojiTable.toList

def named? (name : List Char) : List (List Char) → Option (List Char)
  | key :: emoji :: rest => if key = name then some emoji else named? name rest
  | _ => none

/-- The two ways to draw an emoji, which may be asked for behind its name, and the characters that
say so. -/
def variants : List (List Char × Char) :=
  [("-text".toList, '\ufe0e'), ("-emoji".toList, '\ufe0f')]

def ofCode? (code : List Char) : Option (List Char) :=
  match variants.find? (·.1.isSuffixOf code) with
  | some (ending, variant) =>
    (named? (lowerText (code.take (code.length - ending.length))) tableWords).map (· ++ [variant])
  | none => named? (lowerText code) tableWords

def isCodeChar (c : Char) : Bool := c ≠ ':' && !isSpace c

/-- Replaces the codes in a text.  Colons around anything else are left, and what is behind the
second of them may begin a code again. -/
def replace (s : List Char) : List Char :=
  match s with
  | [] => []
  | c :: s =>
    have := (s.dropWhile_sublist isCodeChar).length_le
    if c = ':' then
      match _h : s.dropWhile isCodeChar with
      | ':' :: rest =>
        let code := s.takeWhile isCodeChar
        (ofCode? code).getD (':' :: (code ++ [':'])) ++ replace rest
      | _ => c :: replace s
    else c :: replace s
termination_by s.length
decreasing_by
  all_goals simp_all only [List.length_cons]; omega

end Railroad.Emoji
