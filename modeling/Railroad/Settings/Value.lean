import Railroad.Calendar
import Railroad.Decimal.Notation
import Railroad.Decimal.Reading
import Railroad.Json
import Railroad.Members
import Railroad.Text.Literal
import Railroad.Text.Space

namespace Railroad

inductive SettingValue where
  | null
  | bool (b : Bool)
  | integer (n : Int)
  | number (x : Float)
  | text (s : String)
  | date (d : Date)
  | moment (m : Moment)
  | list (elements : List SettingValue)
  | mapping (members : List (String × SettingValue))
  deriving Inhabited

namespace SettingValue

mutual

def ofJson : Json Float → SettingValue
  | .null => null
  | .bool b => bool b
  | .integer n => integer n
  | .number x => number x
  | .string s => text s
  | .array vs => list (ofElements vs)
  | .object ms => mapping (ofMembers ms)

def ofElements : List (Json Float) → List SettingValue
  | [] => []
  | v :: vs => ofJson v :: ofElements vs

def ofMembers : List (String × Json Float) → List (String × SettingValue)
  | [] => []
  | (key, v) :: ms => (key, ofJson v) :: ofMembers ms

end

mutual

/-- Lets the members of `newer` override those of a mapping.  Where both are mappings, their members
are merged in turn. -/
def override (base newer : List (String × SettingValue)) : List (String × SettingValue) :=
  match newer with
  | [] => base
  | (key, v) :: rest =>
    override (Members.put key (overrideValue (Members.get? key base) v) base) rest

def overrideValue (old : Option SettingValue) (new : SettingValue) : SettingValue :=
  match new with
  | mapping newer =>
    match old with
    | some (mapping base) => mapping (override base newer)
    | _ => mapping newer
  | v => v

end

def isBlank : SettingValue → Bool
  | null | bool false | integer 0 | text "" | list [] | mapping [] => true
  | number x => x == 0
  | _ => false

def typeName : SettingValue → String
  | null => "NoneType"
  | bool _ => "bool"
  | integer _ => "int"
  | number _ => "float"
  | text _ => "str"
  | date _ => "date"
  | moment _ => "datetime"
  | list _ => "list"
  | mapping _ => "dict"

def isUnwritten : SettingValue → Bool
  | integer n => Nat.pow 10 integerDigitLimit ≤ n.natAbs
  | _ => false

mutual

def shown : SettingValue → String
  | null => "None"
  | bool b => if b then "True" else "False"
  | integer n => if isUnwritten (integer n) then "<unprintable int object>" else toString n
  | number x => Numeral.report x
  | text s => showText s
  | date d => d.shown
  | moment m => m.shown
  | list vs => "[" ++ ", ".intercalate (shownAll vs) ++ "]"
  | mapping ms => "\x7b" ++ ", ".intercalate (shownMembers ms) ++ "\x7d"

def shownAll : List SettingValue → List String
  | [] => []
  | v :: vs => v.shown :: shownAll vs

def shownMembers : List (String × SettingValue) → List String
  | [] => []
  | (k, v) :: ms => (showText k ++ ": " ++ v.shown) :: shownMembers ms

end

/-- A value as a word without space around it: a text itself, a date or a moment as it is written,
other values as they are shown. -/
def word : SettingValue → List Char
  | text s => trim isSpace s.toList
  | date d => d.text.toList
  | moment m => m.text.toList
  | v => trim isSpace v.shown.toList

end SettingValue

end Railroad
