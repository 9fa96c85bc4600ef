import Railroad.Settings
import Railroad.Settings.Value
import Railroad.Text.Case

namespace Railroad

inductive Bound where
  | nonnegative
  | positive

inductive SettingCause where
  | unreadableNumber
  | noNumber
  | below (bound : Bound)
  | stubTooLong
  | noMapping (model : String)
  | unknownPolicy
  | noPath
  | unknownLevel
  | unwrittenInteger
  | unknownKey

namespace SettingCause

def code : SettingCause → String
  | unreadableNumber => "float_parsing"
  | noNumber => "float_type"
  | below .nonnegative => "greater_than_equal"
  | below .positive => "greater_than"
  | stubTooLong | unknownLevel | unwrittenInteger => "value_error"
  | noMapping _ => "model_type"
  | unknownPolicy => "enum"
  | noPath => "path_type"
  | unknownKey => "extra_forbidden"

def message : SettingCause → String
  | unreadableNumber => "Input should be a valid number, unable to parse string as a number"
  | noNumber => "Input should be a valid number"
  | below .nonnegative => "Input should be greater than or equal to 0"
  | below .positive => "Input should be greater than 0"
  | stubTooLong => "Value error, layout.stub_length must not exceed layout.branch_margin"
  | noMapping model => "Input should be a valid dictionary or instance of " ++ model
  | unknownPolicy => "Input should be 'abort' or 'skip'"
  | noPath => "Input is not a valid path for <class 'pathlib.Path'>"
  | unknownLevel =>
    "Value error, log_level must be one of " ++
      ", ".intercalate ((Named.all (β := LogLevel)).map Named.name)
  | unwrittenInteger =>
    "Value error, Exceeds the limit (" ++ toString integerDigitLimit ++ " digits) for integer " ++
      "string conversion; use sys.set_int_max_str_digits() to increase the limit"
  | unknownKey => "Extra inputs are not permitted"

end SettingCause

structure SettingFault where
  keys : List String
  cause : SettingCause
  input : SettingValue

abbrev SettingMembers := Members SettingValue

def Bound.holds : Bound → Float → Bool
  | nonnegative, x => 0 ≤ x
  | positive, x => 0 < x

def withoutUnderscores? (s : List Char) : Option (List Char) :=
  if s.head? = some '_' ∨ s.getLast? = some '_' ∨ ('_', '_') ∈ s.zip s.tail then none
  else some (s.filter (· ≠ '_'))

/-- Numbers, truth values and texts that hold a number are numbers, but for integers that are too
large for a float. -/
def readNumber : SettingValue → Except SettingCause Float
  | .integer n =>
    let x := (Decimal.mk n.natAbs 0).toFloat (n < 0)
    if x.isFinite then .ok x else .error .noNumber
  | .number x => .ok x
  | .bool b => .ok (if b then 1.0 else 0.0)
  | .text s =>
    match (float? (trim isWhite s.toList)).or ((withoutUnderscores? s.toList).bind float?) with
    | some x => .ok x
    | none => .error .unreadableNumber
  | _ => .error .noNumber

def boundedNumber (bound : Bound) (v : SettingValue) : Except SettingCause Float := do
  let x ← readNumber v
  if bound.holds x then return x else throw (.below bound)

def numberField (ms : SettingMembers) (key : String) (bound : Bound) (default : Float) :
    Except SettingFault Float :=
  match Members.get? key ms with
  | none => .ok default
  | some v => (boundedNumber bound v).mapError (⟨[key], ·, v⟩)

def optionalField (ms : SettingMembers) (key : String) (bound : Bound) (default : Option Float) :
    Except SettingFault (Option Float) :=
  match Members.get? key ms with
  | none => .ok default
  | some .null => .ok none
  | some v => ((boundedNumber bound v).map some).mapError (⟨[key], ·, v⟩)

/-- A stub that is given has to fit into the margin of the branches. -/
def stubField (ms : SettingMembers) (margin : Except SettingFault Float) (default : Float) :
    Except SettingFault Float := do
  let stub ← numberField ms "stub_length" .nonnegative default
  match margin, Members.get? "stub_length" ms with
  | .ok margin, some v =>
    if margin < stub then throw ⟨["stub_length"], .stubTooLong, v⟩ else return stub
  | _, _ => return stub

def faultOf? {ε β : Type} : Except ε β → Option ε
  | .ok _ => none
  | .error e => some e

def collect {β : Type} (faults : List (List SettingFault)) (value : Except SettingFault β) :
    Except (List SettingFault) β :=
  match faults.flatten, value with
  | [], .ok x => .ok x
  | [], .error e => .error [e]
  | es, _ => .error es

def validSpacing (ms : SettingMembers) : Except (List SettingFault) (Spacing Float) :=
  let d : Spacing Float := .standard
  let railMargin := numberField ms "rail_margin" .nonnegative d.railMargin
  let emptyHeight := numberField ms "empty_height" .nonnegative d.emptyHeight
  let emptyPadding := numberField ms "empty_padding" .nonnegative d.emptyPadding
  let gap := numberField ms "vspace" .nonnegative d.gap
  let branchMargin := numberField ms "branch_margin" .nonnegative d.branchMargin
  let stubLength := stubField ms branchMargin d.stubLength
  collect
    ([railMargin, emptyHeight, emptyPadding, gap, branchMargin, stubLength].map fun f =>
      (faultOf? f).toList)
    (return ⟨← railMargin, ← emptyHeight, ← emptyPadding, ← gap, ← branchMargin, ← stubLength⟩)

def validMetrics (ms : SettingMembers) : Except (List SettingFault) (CellMetrics Float) :=
  let d : CellMetrics Float := .standard
  let charWidth := numberField ms "char_width" .positive d.charWidth
  let specialCharWidth := optionalField ms "special_char_width" .positive d.specialCharWidth
  let lineHeight := numberField ms "line_height" .positive d.lineHeight
  let paddingX := numberField ms "padding_x" .nonnegative d.paddingX
  let paddingY := numberField ms "padding_y" .nonnegative d.paddingY
  collect
    [(faultOf? charWidth).toList, (faultOf? specialCharWidth).toList, (faultOf? lineHeight).toList,
      (faultOf? paddingX).toList, (faultOf? paddingY).toList]
    (return ⟨← charWidth, ← specialCharWidth, ← lineHeight, ← paddingX, ← paddingY⟩)

def sectionField {β : Type} (ms : SettingMembers) (key model : String)
    (valid : SettingMembers → Except (List SettingFault) β) : Except (List SettingFault) β :=
  match Members.get? key ms with
  | none => valid []
  | some (.mapping section') =>
    (valid section').mapError (·.map fun e => { e with keys := key :: e.keys })
  | some v => .error [⟨[key], .noMapping model, v⟩]

/-- A policy is named in any case; what is blank leaves the default. -/
def policyField (ms : SettingMembers) (default : ErrorPolicy) : Except SettingFault ErrorPolicy :=
  match Members.get? "on_error" ms with
  | none => .ok default
  | some v =>
    if v.isBlank then .ok .abort
    else if v.isUnwritten then .error ⟨["on_error"], .unwrittenInteger, v⟩
    else
      let name := String.ofList (lowerText v.word)
      (Named.find ErrorPolicy name).mapError fun _ => ⟨["on_error"], .unknownPolicy, .text name⟩

def upperChar (c : Char) : Char :=
  if c = 'ı' then 'I' else if c = 'ſ' then 'S' else c.toUpper

def levelField (ms : SettingMembers) (default : LogLevel) : Except SettingFault LogLevel :=
  match Members.get? "log_level" ms with
  | none => .ok default
  | some v =>
    if v.isBlank then .ok .warning
    else if v.isUnwritten then .error ⟨["log_level"], .unwrittenInteger, v⟩
    else
      (Named.find LogLevel (String.ofList (v.word.map upperChar))).mapError fun _ =>
        ⟨["log_level"], .unknownLevel, v⟩

def pathField (ms : SettingMembers) (key : String) (default : Path) : Except SettingFault Path :=
  match Members.get? key ms with
  | none => .ok default
  | some (.text s) => .ok (Path.ofString s)
  | some v => .error ⟨[key], .noPath, v⟩

def settingKeys : List String := ["layout", "measure", "on_error", "output_dir", "log_level"]

def unknownKeys (ms : SettingMembers) : List SettingFault :=
  (ms.filter (·.1 ∉ settingKeys)).map fun (key, v) => ⟨[key], .unknownKey, v⟩

def validSettings (ms : SettingMembers) : Except (List SettingFault) (Settings Float) :=
  let d : Settings Float := .standard
  let spacing := sectionField ms "layout" "LayoutSettings" validSpacing
  let metrics := sectionField ms "measure" "MeasureSettings" validMetrics
  let onError := policyField ms d.onError
  let outputDirectory := pathField ms "output_dir" d.outputDirectory
  let logLevel := levelField ms d.logLevel
  let faults := [(faultOf? spacing).getD [], (faultOf? metrics).getD [], (faultOf? onError).toList,
    (faultOf? outputDirectory).toList, (faultOf? logLevel).toList, unknownKeys ms].flatten
  match faults, spacing, metrics, onError, outputDirectory, logLevel with
  | [], .ok spacing, .ok metrics, .ok onError, .ok outputDirectory, .ok logLevel =>
    .ok ⟨spacing, metrics, onError, outputDirectory, logLevel⟩
  | es, _, _, _, _, _ => .error es

end Railroad
