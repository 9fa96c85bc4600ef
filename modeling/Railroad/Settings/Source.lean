import Railroad.Files
import Railroad.GrammarFile
import Railroad.Settings.Document
import Railroad.Settings.Validation
import Railroad.Text.Utf8

namespace Railroad

abbrev Environment := List (String × String)

inductive SettingsFault where
  | missing (path : Path)
  | unreachable (fault : FileFault)
  | homeless (path : Path)
  | unreadableVariable (field : String)
  | deepVariable (field : String)
  | badDocument (fault : DocumentFault)
  | badText (fault : Utf8Fault)
  | invalid (model : String) (faults : List SettingFault)

def SettingsFault.isBadSetting : SettingsFault → Bool
  | unreachable _ | homeless _ | deepVariable _ => false
  | badDocument fault => fault.isBadSetting
  | _ => true

def variableStart : String := "trailer_"

def variableKey? (name : String) : Option String :=
  let name := name.toLower
  if name.startsWith variableStart then
    some (String.ofList (name.toList.drop variableStart.length))
  else none

def splitKeys : List Char → List (List Char)
  | [] => [[]]
  | '_' :: '_' :: s => [] :: splitKeys s
  | c :: s =>
    match splitKeys s with
    | [] => [[c]]
    | key :: keys => (c :: key) :: keys

/-- Sets the text at the end of keys, each of which leads to a mapping.  Where one leads to a text
already, that stays as it is. -/
def putAlong (keys : List String) (value : String) (ms : SettingMembers) : SettingMembers :=
  match keys with
  | [] => ms
  | [key] => Members.put key (.text value) ms
  | key :: keys =>
    match Members.get? key ms with
    | none => Members.put key (.mapping (putAlong keys value [])) ms
    | some (.mapping inner) => Members.put key (.mapping (putAlong keys value inner)) ms
    | some _ => ms

def sectionVariables (env : Environment) (key : String) : SettingMembers :=
  env.foldl (fun ms (name, value) =>
    match (variableKey? name).map fun k => splitKeys k.toList with
    | some (first :: second :: more) =>
      if String.ofList first = key then putAlong ((second :: more).map String.ofList) value ms
      else ms
    | _ => ms) []

def variableValue? (env : Environment) (key : String) : Option String :=
  (env.reverse.find? fun (name, _) => variableKey? name = some key).map (·.2)

def sectionKeys (key : String) : List String :=
  if key = "layout" then
    ["rail_margin", "empty_height", "empty_padding", "vspace", "branch_margin", "stub_length"]
  else if key = "measure" then
    ["char_width", "special_char_width", "line_height", "padding_x", "padding_y"]
  else []

/-- In the environment the case of a section's keys does not matter; of members whose keys differ
only in case the last counts. -/
def lowerKeys (known : List String) (ms : SettingMembers) : SettingMembers :=
  Members.distinct (ms.map fun (key, v) => (if key.toLower ∈ known then key.toLower else key, v))

/-- What the environment says about a section: a JSON object, or variables for its keys, or both,
where the latter go first. -/
def sectionSource (env : Environment) (key : String) :
    Except SettingsFault (Option SettingValue) :=
  let single := sectionVariables env key
  match variableValue? env key with
  | none => .ok (if single.isEmpty then none else some (.mapping single))
  | some text =>
    match (Json.parse lenientJson text.toList).map SettingValue.ofJson with
    | .error .malformed => .error (.unreadableVariable key)
    | .error .tooDeep => .error (.deepVariable key)
    | .ok (.mapping ms) =>
      .ok (some (.mapping (lowerKeys (sectionKeys key) (SettingValue.override ms single))))
    | .ok .null => .ok none
    | .ok v => .ok (some v)

def sections : List String := ["layout", "measure"]

def environmentMembers (env : Environment) : Except SettingsFault SettingMembers :=
  settingKeys.foldlM (fun ms key => do
    let v ← if key ∈ sections then sectionSource env key
      else pure ((variableValue? env key).map SettingValue.text)
    return match v with
      | some v => ms ++ [(key, v)]
      | none => ms) []

/-- The case of a setting's key does not matter; of several spellings of one key the first counts.
Keys of no setting stay behind the others. -/
def settingMembers (ms : SettingMembers) : SettingMembers :=
  let lower := fun key : String => String.ofList (lowerText key.toList)
  (settingKeys.filterMap fun key =>
    (ms.find? fun m => lower m.1 = key).map fun m => (key, m.2)) ++
  ms.filter fun m => lower m.1 ∉ settingKeys

def mergedSettings (document : SettingMembers) (env : Environment) (data : SettingMembers) :
    Except SettingsFault (Settings Float) := do
  let ms := SettingValue.override (settingMembers document) (← environmentMembers env)
  (validSettings (SettingValue.override ms (settingMembers data))).mapError (.invalid "AppSettings")

def variableNames : List String :=
  let fields := sections.flatMap fun key => (sectionKeys key).map (key ++ "__" ++ ·)
  let names := (settingKeys ++ fields).map (variableStart ++ ·)
  "HOME" :: "TRAILER_CONFIG_PATH" :: names ++ names.map String.toUpper

def standardDocument : Path := ⟨0, ["config", "trailer.yaml"]⟩

def documentPath? (fs : Files) (env : Environment) (path : Option Path) : Option Path :=
  match path, env.lookup "TRAILER_CONFIG_PATH" with
  | some p, _ => some p
  | none, some name =>
    if name.isEmpty then standardIfThere else some (Path.ofString name)
  | none, none => standardIfThere
where
  standardIfThere : Option Path :=
    if fs.exists? standardDocument matches .ok true then some standardDocument else none

def home? (env : Environment) (name : String) : Option String :=
  let own := if name.isEmpty then env.lookup "HOME" else none
  match own with
  | some home => if home.startsWith "~" then none else some home
  | none => if name ∈ ["", "root"] then some "/root" else none

def expandHome? (env : Environment) (p : Path) : Option Path :=
  match p.slashes, p.parts with
  | 0, first :: parts =>
    if first.startsWith "~" then
      (home? env (String.ofList (first.toList.drop 1))).map fun home =>
        let root := if home.isEmpty then "/" else home
        parts.foldl Path.child (Path.ofString root)
    else some p
  | _, _ => some p

def documentMembers (fs : Files) (env : Environment) (p : Path) :
    Except SettingsFault SettingMembers := do
  if !(← (fs.exists? p).mapError .unreachable) then .error (.missing p)
  else match expandHome? env p with
    | none => .error (.homeless p)
    | some expanded =>
      match fs.read expanded with
      | .error .tooLong => .error (.unreachable .tooLong)
      | .error _ => .ok []
      | .ok content =>
        match Utf8Fault.find? content with
        | some fault => .error (.badText fault)
        | none => (Document.parse ((decodeText? content).getD [])).mapError .badDocument

def loadSettings (fs : Files) (env : Environment) (path : Option Path) :
    Except SettingsFault (Settings Float) := do
  let document ← match documentPath? fs env path with
    | some p => documentMembers fs env p
    | none => pure []
  mergedSettings document env []

end Railroad
