import Railroad.Json
import Railroad.Path

namespace Railroad

inductive FileEntry where
  | file (content : ByteArray)
  | directory

abbrev Location := List String

structure Files where
  entries : List (Location × FileEntry) := []
  working : Location := []

inductive FileFault where
  | notFound
  | isDirectory
  | notDirectory
  | alreadyExists
  | badText
  | unwritable (cause : Json.Unwritable)
  | unnamed (path : Path)
  | tooLong
  | nullCharacter
  /-- A file would have to be moved to the directory above another one. -/
  | busy
  deriving DecidableEq, Repr

def FileFault.message : FileFault → String
  | notFound => "no such file or directory"
  | isDirectory => "is a directory"
  | notDirectory => "not a directory"
  | alreadyExists => "file exists"
  | badText => "not a text in UTF-8"
  | unwritable cause => cause.message
  | unnamed path => path.toString ++ " has an empty name"
  | tooLong => "name too long"
  | nullCharacter => "embedded null byte"
  | busy => "device or resource busy"

def putEntry (l : Location) (e : FileEntry) :
    List (Location × FileEntry) → List (Location × FileEntry)
  | [] => [(l, e)]
  | (k, f) :: rest => if k = l then (l, e) :: rest else (k, f) :: putEntry l e rest

namespace Files

def get? (fs : Files) (l : Location) : Option FileEntry := fs.entries.lookup l

def put (fs : Files) (l : Location) (e : FileEntry) : Files :=
  { fs with entries := putEntry l e fs.entries }

def erase (fs : Files) (l : Location) : Files :=
  { fs with entries := fs.entries.filter (·.1 ≠ l) }

/-- Directories lie on the way to an entry, or have an entry of their own. -/
def isDirectoryAt (fs : Files) (l : Location) : Bool :=
  match fs.get? l with
  | some (.file _) => false
  | some .directory => true
  | none => l.isPrefixOf fs.working || fs.entries.any fun e => l.isPrefixOf e.1

def existsAt (fs : Files) (l : Location) : Bool := fs.isDirectoryAt l || (fs.get? l).isSome

def nameLimit : Nat := 255

def pathLimit : Nat := 4095

def checkPath (p : Path) : Except FileFault Unit :=
  if p.hasNull then .error .nullCharacter
  else if pathLimit < p.toString.utf8ByteSize then .error .tooLong
  else .ok ()

/-- Goes one part of a path on from a location, which has to be a directory. -/
def step (fs : Files) (l : Location) (part : String) : Except FileFault Location :=
  if !fs.isDirectoryAt l then .error (if fs.existsAt l then .notDirectory else .notFound)
  else if nameLimit < part.utf8ByteSize then .error .tooLong
  else .ok (if part = ".." then l.dropLast else l ++ [part])

def locate (fs : Files) (p : Path) : Except FileFault Location := do
  checkPath p
  p.parts.foldlM fs.step (if p.slashes = 0 then fs.working else [])

def isDirectory (fs : Files) (p : Path) : Bool :=
  match fs.locate p with
  | .ok l => fs.isDirectoryAt l
  | .error _ => false

def exists? (fs : Files) (p : Path) : Except FileFault Bool :=
  match fs.locate p with
  | .ok l => .ok (fs.existsAt l)
  | .error .tooLong => .error .tooLong
  | .error _ => .ok false

def read (fs : Files) (p : Path) : Except FileFault ByteArray := do
  let l ← fs.locate p
  match fs.get? l with
  | some (.file content) => return content
  | _ => throw (if fs.isDirectoryAt l then .isDirectory else .notFound)

def names (fs : Files) (l : Location) : List String :=
  (fs.entries.filterMap fun e =>
    if l.isPrefixOf e.1 then (e.1.drop l.length).head? else none).eraseDups

end Files

/-- Actions on a tree of files keep what they have done when they fail. -/
abbrev FileAction := ExceptT FileFault (StateM Files)

namespace FileAction

def ofExcept {β : Type} (f : Files → Except FileFault β) : FileAction β := do
  match f (← get) with
  | .ok x => return x
  | .error e => throw e

def makeDirectory (p : Path) : FileAction Unit := do
  let l ← ofExcept (·.locate p)
  let fs ← get
  if fs.isDirectoryAt l then return
  else if fs.existsAt l then throw .alreadyExists
  else set (fs.put l .directory)

def makeDirectories (p : Path) : FileAction Unit := do
  ofExcept fun _ => Files.checkPath p
  (List.range (p.parts.length + 1)).forM fun n =>
    let ancestor : Path := ⟨p.slashes, p.parts.take n⟩
    if n = p.parts.length then makeDirectory ancestor
    else tryCatch (makeDirectory ancestor) fun
      | .alreadyExists => throw .notDirectory
      | e => throw e

def writable (p : Path) : FileAction Location := do
  let l ← ofExcept (·.locate p)
  let fs ← get
  if fs.isDirectoryAt l then throw .isDirectory
  else if !fs.isDirectoryAt l.dropLast then throw .notFound
  else return l

def write (p : Path) (content : ByteArray) : FileAction Unit := do
  let l ← writable p
  modify fun fs => fs.put l (.file content)

def replace (source target : Path) : FileAction Unit := do
  let content ← ofExcept (·.read source)
  let l ← ofExcept (·.locate source)
  if target.parts.getLast? = some ".." then throw .busy
  write target content
  unless (← ofExcept (·.locate target)) = l do modify (·.erase l)

end FileAction

end Railroad
