import Railroad.Settings.Document.Token

namespace Railroad.Document

inductive Node where
  | leaf (scalar : Scalar)
  | mapping (entries : List (Scalar × Node))

def Node.nothing : Node := .leaf ⟨[], true, false, ⟨none, []⟩⟩

def keyLimit : Nat := 1024

def afterColon? (s : List Char) : Option (List Char) :=
  let s := s.dropWhile (· = ' ')
  if isColonNext s then some s.tail else none

def Place.isOver (p : Place) : Bool := p.rest.isEmpty || p.column = some 0 && isMark p.rest

def keyOrScalar (least : Nat) (s : List Char) :
    Except DocumentFault (Scalar × Option (List Char)) := do
  let k ← scalar least s
  match k.next.column, afterColon? k.next.rest with
  | none, some rest =>
    if k.isLong || keyLimit < s.length - rest.length - 1 then throw .badToken
    else return (k, some rest)
  | _, _ => return (k, none)

def Scalar.after (k : Scalar) : Place := skipGap false k.next.column k.next.rest

mutual

/-- Reads what stands on lines of its own, indented by at least `least` columns. -/
def node : (room : Nat) → (least : Nat) → Place → Except DocumentFault (Node × Place)
  | 0, _, _ => .error .badToken
  | room + 1, least, p => do
    match ← keyOrScalar least p.rest with
    | (k, none) => return (.leaf k, k.after)
    | (k, some rest) =>
      let (es, p) ← entries room (p.column.getD 0) k rest
      return (.mapping es, p)

def entries : (room : Nat) → (column : Nat) → Scalar → List Char →
    Except DocumentFault (List (Scalar × Node) × Place)
  | 0, _, _, _ => .error .badToken
  | room + 1, column, key, rest => do
    let p := skipGap false none rest
    let (value, p) ← match p.column with
      | some c =>
        if p.isOver || c ≤ column then pure (Node.nothing, p) else node room (column + 1) p
      | none =>
        if p.rest.isEmpty then pure (Node.nothing, p)
        else match ← keyOrScalar (column + 1) p.rest with
          | (k, none) => pure (Node.leaf k, k.after)
          | (_, some _) => throw .badToken
    if p.isOver then return ([(key, value)], p)
    else match p.column with
      | none => throw (if p.rest.head? = some '\t' then .badToken else .misplacedToken)
      | some c =>
        if c < column then return ([(key, value)], p)
        else if column < c then throw .misplacedToken
        else match ← keyOrScalar (column + 1) p.rest with
          | (k, some rest) =>
            let (es, p) ← entries room column k rest
            return ((key, value) :: es, p)
          | (_, none) => throw .badToken

end

def Scalar.value (k : Scalar) : Except DocumentFault SettingValue :=
  if !k.isPlain then .ok (.text (String.ofList k.text))
  else if [['='], ['<', '<']].contains k.text then .error .unknownKind
  else (plainValue k.text).mapError .scalar

def Scalar.key (k : Scalar) : Except DocumentFault (Bool × String) :=
  if k.text = ['='] then .ok (true, "=")
  else k.value.map fun
    | .text s => (true, s)
    | v => (false, v.shown)

mutual

/-- What a node stands for.  The scalars of a mapping are read before the mappings in it. -/
def Node.value : Node → Except DocumentFault SettingValue
  | .leaf k => k.value
  | .mapping es => do
    es.forM fun (k, v) => do
      let _ ← k.key
      match v with
      | .leaf v => let _ ← v.value
      | .mapping _ => pure ()
    return .mapping (Members.distinct (← entryValues es))

def entryValues : List (Scalar × Node) → Except DocumentFault (List (String × SettingValue))
  | [] => .ok []
  | (k, v) :: es => do
    let (_, key) ← k.key
    return (key, ← v.value) :: (← entryValues es)

end

def isControl (c : Char) : Bool :=
  let n := c.toNat
  n < 0x20 && n ≠ 0x09 && n ≠ 0x0a && n ≠ 0x0d || 0x7f ≤ n && n < 0xa0 && n ≠ 0x85 ||
    n = 0xfffe || n = 0xffff

def root (text : List Char) : Except DocumentFault Node := do
  if text.any isControl then throw .control
  let text := if text.head? = some '\ufeff' then text.tail else text
  let start := skipGap false (some 0) text
  let p := if start.column = some 0 && isMark start.rest && start.rest.head? = some '-' then
      skipGap false none (start.rest.drop 3)
    else start
  let (n, p) ←
    if p.isOver then pure (Node.nothing, p)
    else match p.column with
      | some _ => node (text.length + 1) 0 p
      | none => match ← keyOrScalar 0 p.rest with
        | (k, none) => pure (Node.leaf k, k.after)
        | (_, some _) => throw .badToken
  if p.rest.isEmpty then return n
  else if !p.isOver then throw .misplacedToken
  else if p.rest.head? = some '-' then throw .secondDocument
  else if (skipGap false none (p.rest.drop 3)).rest.isEmpty then return n
  else throw .misplacedToken

/-- A document is a mapping with a key on each line.  A key without a value has what is indented
deeper below it as its value, and hash signs begin comments. -/
def parse (text : List Char) : Except DocumentFault (List (String × SettingValue)) := do
  let n ← root text
  let v ← n.value
  match n, v with
  | .mapping es, .mapping ms =>
    if (← es.mapM fun e => e.1.key).all (·.1) then return ms else throw .foreignKey
  | _, .text s => if s.isEmpty then return [] else throw .onlyText
  | _, v => if v.isBlank then return [] else throw .noMapping

end Railroad.Document
