import Railroad.Settings.Source

namespace Railroad

def takeBytes (limit : Nat) : List Char → List Char
  | [] => []
  | c :: s => if c.utf8Size ≤ limit then c :: takeBytes (limit - c.utf8Size) s else []

/-- Values of more than fifty bytes are shown without their middle. -/
def shortened (s : String) : String :=
  if s.utf8ByteSize ≤ 50 then s
  else
    String.ofList (takeBytes 25 s.toList) ++ "..." ++
      String.ofList (takeBytes 24 s.toList.reverse).reverse

def SettingFault.lines (e : SettingFault) : List String :=
  [".".intercalate e.keys,
    "  " ++ e.cause.message ++ " [type=" ++ e.cause.code ++ ", input_value=" ++
      shortened e.input.shown ++ ", input_type=" ++ e.input.typeName ++ "]"]

def faultCount (model : String) (faults : List SettingFault) : String :=
  let noun := if faults.length = 1 then " validation error for " else " validation errors for "
  toString faults.length ++ noun ++ model

namespace SettingsFault

def headline : SettingsFault → String
  | missing path => "Config file not found: " ++ path.toString
  | unreadableVariable field =>
    "error parsing value for field \"" ++ field ++ "\" from source \"EnvSettingsSource\""
  | deepVariable field => "too many values within each other for field \"" ++ field ++ "\""
  | unreachable fault => fault.message
  | homeless path => "no home for " ++ path.toString
  | badDocument fault => fault.message
  | badText fault => fault.message
  | invalid model faults => faultCount model faults

def lines (e : SettingsFault) : List String :=
  e.headline :: match e with
    | invalid _ faults => faults.flatMap SettingFault.lines
    | _ => []

end SettingsFault

end Railroad
