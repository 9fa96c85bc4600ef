import Railroad.Text.Unseen

namespace Railroad

def hexText (width n : Nat) : List Char :=
  let ds := Nat.toDigits 16 n
  List.replicate (width - ds.length) '0' ++ ds

def showChar (quote c : Char) : List Char :=
  if c = quote ∨ c = '\\' then ['\\', c]
  else if c = '\n' then ['\\', 'n']
  else if c = '\r' then ['\\', 'r']
  else if c = '\t' then ['\\', 't']
  else if isUnseen c then
    if c.toNat < 0x100 then '\\' :: 'x' :: hexText 2 c.toNat
    else if c.toNat < 0x10000 then '\\' :: 'u' :: hexText 4 c.toNat
    else '\\' :: 'U' :: hexText 8 c.toNat
  else [c]

/-- Apostrophes enclose the text, double quotes where it has apostrophes and no double quotes. -/
def showText (s : String) : String :=
  let quote := if s.contains '\'' && !s.contains '"' then '"' else '\''
  String.ofList (quote :: (s.toList.flatMap (showChar quote) ++ [quote]))

end Railroad
