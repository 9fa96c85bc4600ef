import Railroad.Json
import Railroad.Scalar

namespace Railroad.Json

variable {α : Type}

def isWritableInteger (n : Int) : Bool := -0x8000000000000000 ≤ n && n < 0x10000000000000000

def writingLimit : Nat := 254

mutual

/-- The first thing in a value that keeps it from being written, where `room` more arrays and
objects may stand within each other. -/
def obstacle? (room : Nat) : Json α → Option Unwritable
  | integer n => if isWritableInteger n then none else some .integerTooLarge
  | array vs => if room = 0 then some .nestedTooDeeply else obstacleInAll? (room - 1) vs
  | object members =>
    if room = 0 then some .nestedTooDeeply else obstacleInMembers? (room - 1) members
  | _ => none

def obstacleInAll? (room : Nat) : List (Json α) → Option Unwritable
  | [] => none
  | v :: vs => (v.obstacle? room).or (obstacleInAll? room vs)

def obstacleInMembers? (room : Nat) : List (String × Json α) → Option Unwritable
  | [] => none
  | (_, v) :: ms => (v.obstacle? room).or (obstacleInMembers? room ms)

end

def escapeChar (c : Char) : List Char :=
  if c = '"' then ['\\', '"']
  else if c = '\\' then ['\\', '\\']
  else if c = '\x08' then ['\\', 'b']
  else if c = '\x0c' then ['\\', 'f']
  else if c = '\n' then ['\\', 'n']
  else if c = '\r' then ['\\', 'r']
  else if c = '\t' then ['\\', 't']
  else if c.toNat < 0x20 then
    ['\\', 'u', '0', '0', Nat.digitChar (c.toNat / 16), Nat.digitChar (c.toNat % 16)]
  else [c]

def quote (s : String) : String :=
  String.ofList ('"' :: (s.toList.flatMap escapeChar ++ ['"']))

/-- A line of its own for each item between the brackets, which stand at the given indentation. -/
def block (opening closing : String) (indent : Nat) (items : List String) : String :=
  let line := fun width item => "\n" ++ String.ofList (List.replicate width ' ') ++ item
  match items with
  | [] => opening ++ closing
  | _ => opening ++ ",".intercalate (items.map (line (indent + 2))) ++ line indent closing

variable [Numeral α]

mutual

def text (indent : Nat) : Json α → String
  | null => "null"
  | bool b => if b then "true" else "false"
  | integer n => toString n
  | number x => Numeral.file x
  | string s => quote s
  | array elements => block "[" "]" indent (elementTexts (indent + 2) elements)
  | object members => block "\x7b" "\x7d" indent (memberTexts (indent + 2) members)

def elementTexts (indent : Nat) : List (Json α) → List String
  | [] => []
  | v :: vs => v.text indent :: elementTexts indent vs

def memberTexts (indent : Nat) : List (String × Json α) → List String
  | [] => []
  | (key, v) :: ms => (quote key ++ ": " ++ v.text indent) :: memberTexts indent ms

end

def serialize (v : Json α) : Except Unwritable String :=
  match v.obstacle? writingLimit with
  | some e => .error e
  | none => .ok (v.text 0)

end Railroad.Json
