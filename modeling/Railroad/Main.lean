import Railroad.Command.Line

namespace Railroad

def Location.name (l : Location) : String := "/" ++ "/".intercalate l

def Files.addFrom (fs : Files) (l : Location) : IO Files := do
  let p := (← IO.currentDir) / l.name
  if ← p.isDir then return fs.put l .directory
  else if ← p.pathExists then return fs.put l (.file (← IO.FS.readBinFile p))
  else return fs

def Files.addChildren (fs : Files) (l : Location) : IO Files := do
  let p := (← IO.currentDir) / l.name
  if ← p.isDir then
    (← p.readDir).foldlM (fun fs child => fs.addFrom (l ++ [child.fileName])) fs
  else return fs

def Files.addPath (fs : Files) (p : Path) : IO Files := do
  let mut fs := fs
  for n in List.range (p.parts.length + 1) do
    match fs.locate ⟨p.slashes, p.parts.take n⟩ with
    | .ok l =>
      fs ← fs.addFrom l
      if n = p.parts.length then fs ← fs.addChildren l
    | .error _ => pure ()
  return fs

def writeBack (before after : Files) (l : Location) : IO Unit := do
  let p := (← IO.currentDir) / l.name
  match before.get? l, after.get? l with
  | _, some .directory => IO.FS.createDirAll p
  | some (.file old), some (.file new) => unless old.data == new.data do IO.FS.writeBinFile p new
  | _, some (.file new) => IO.FS.writeBinFile p new
  | some _, none => IO.FS.removeFile p
  | none, none => pure ()

def environment : IO Environment :=
  variableNames.filterMapM fun name => return (← IO.getEnv name).map fun v => (name, v)

def program (words : List String) : IO UInt32 := do
  let env ← environment
  let working := (← IO.currentDir).components.filter (· ≠ "")
  let mut before : Files := ⟨[], working⟩
  for p in documentPaths env words do
    before ← before.addPath p
  for p in workPaths before env words do
    before ← before.addPath p
  let result := runProgram words env before
  for text in result.printed do
    IO.println text
  for l in ((result.files.entries ++ before.entries).map (·.1)).eraseDups do
    writeBack before result.files l
  if let some cause := result.crash then
    IO.eprintln cause.message
  return UInt32.ofNat result.exitCode

end Railroad

def main (args : List String) : IO UInt32 := Railroad.program args
