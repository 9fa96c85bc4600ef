import Railroad.Export
import Railroad.Proofs.Files.Actions

namespace Railroad

open FileAction

variable {fs fs' fs₀ : Files} {directory p : Path} {k l : Location} {n : String} {c : ByteArray}

namespace Files

def Writable (fs : Files) (p : Path) : Prop := ∃ l, Runs (FileAction.writable p) fs l fs

def written (fs : Files) (l : Location) (n : String) (c : ByteArray) : Files :=
  ((fs.put (l ++ [n ++ ".tmp"]) (.file c)).put (l ++ [n]) (.file c)).erase (l ++ [n ++ ".tmp"])

def rendered (fs : Files) (l : Location) (n : String) (c : ByteArray) : Files :=
  (fs.put (l ++ [n ++ ".lock"]) (.file .empty)).written l n c

theorem append_tmp_ne (n : String) : n ++ ".tmp" ≠ n := by
  intro h
  have hlen : n.length + 4 = n.length := by simpa using congrArg String.length h
  omega

theorem append_tmp_ne_dots (n : String) : n ++ ".tmp" ≠ ".." := by
  intro h
  have hlen := congrArg String.length h
  rw [String.length_append, show ".tmp".length = 4 from rfl, show "..".length = 2 from rfl] at hlen
  omega

theorem get?_written (fs : Files) (l : Location) (n : String) (c : ByteArray) (k : Location) :
    (fs.written l n c).get? k = if k = l ++ [n ++ ".tmp"] then none
      else if k = l ++ [n] then some (.file c) else fs.get? k := by
  simp only [written, get?_erase, get?_put]
  split
  · rfl
  · split <;> rfl

theorem get?_rendered (fs : Files) (l : Location) (n : String) (c : ByteArray) (k : Location) :
    (fs.rendered l n c).get? k = if k = l ++ [n ++ ".tmp"] then none
      else if k = l ++ [n] then some (.file c)
      else if k = l ++ [n ++ ".lock"] then some (.file .empty) else fs.get? k := by
  rw [rendered, get?_written, get?_put]

theorem Proper.alike_put (h : fs.Proper) (hl : ¬fs.isDirectoryAt l)
    (hup : fs.isDirectoryAt l.dropLast) (c : ByteArray) : Alike fs (fs.put l (.file c)) := by
  refine ⟨rfl, fun k => ?_⟩
  by_cases hk : k = l
  · rw [hk]
    refine iff_of_false ?_ hl
    simp [isDirectoryAt_iff]
  · exact h.isDirectoryAt_put hup hk _

theorem Alike.writable (h : Alike fs fs') (hp : fs.Writable p) : fs'.Writable p := by
  obtain ⟨l, hl⟩ := hp
  obtain ⟨-, hloc, hno, hup⟩ := runs_writable.mp hl
  refine ⟨l, runs_writable.mpr ⟨rfl, h.locate hloc, ?_, (h.directory _).mpr hup⟩⟩
  rwa [h.directory]

theorem Writable.child (h : fs.Writable (p.child n)) (hp : fs.locate p = .ok l) (hn : n ≠ "..") :
    Runs (FileAction.writable (p.child n)) fs (l ++ [n]) fs := by
  obtain ⟨k, hk⟩ := h
  obtain rfl := locate_child hp hn (runs_writable.mp hk).2.1
  exact hk

/-- A directory is there that the path leads to, all the way. -/
structure Serves (fs : Files) (directory : Path) (l : Location) : Prop where
  proper : fs.Proper
  located : fs.locate directory = .ok l
  there (n : Nat) (h : n ≤ directory.parts.length) : fs.isDirectory (directory.ancestor n)

theorem Serves.alike (h : fs.Serves directory l) (hfs' : fs'.Proper) (ha : Alike fs fs') :
    fs'.Serves directory l where
  proper := hfs'
  located := ha.locate h.located
  there n hn := by
    obtain ⟨k, hk, hd⟩ := isDirectory_iff.mp (h.there n hn)
    exact isDirectory_iff.mpr ⟨k, ha.locate hk, (ha.directory k).mpr hd⟩

theorem Serves.put (h : fs.Serves directory l) (hn : n ≠ "..")
    (hw : fs.Writable (directory.child n)) (c : ByteArray) :
    Alike fs (fs.put (l ++ [n]) (.file c)) ∧ (fs.put (l ++ [n]) (.file c)).Serves directory l := by
  obtain ⟨-, -, hno, hup⟩ := runs_writable.mp (hw.child h.located hn)
  have halike := h.proper.alike_put hno hup c
  exact ⟨halike, h.alike (h.proper.put hno hup _) halike⟩

theorem Serves.of_makeDirectories (h : fs.Proper)
    (hmake : Runs (makeDirectories directory) fs () fs₀) :
    Widens fs fs₀ ∧ ∃ l, fs₀.Serves directory l := by
  obtain ⟨hfs₀, hwide, hdir⟩ := Proper.of_makeDirectories h hmake
  obtain ⟨l, hl, -⟩ := isDirectory_iff.mp (hdir _ (Nat.le_refl _))
  rw [Path.ancestor_length] at hl
  exact ⟨hwide, l, hfs₀, hl, hdir⟩

end Files

open Files

theorem Files.Serves.written (h : fs.Serves directory l) (hn : n ≠ "..")
    (hfile : fs.Writable (directory.child n)) (htmp : fs.Writable (directory.child (n ++ ".tmp")))
    (c : ByteArray) : Alike fs (fs.written l n c) ∧ (fs.written l n c).Proper := by
  obtain ⟨-, -, htmpno, -⟩ := runs_writable.mp (htmp.child h.located (append_tmp_ne_dots n))
  obtain ⟨htmpfile, hserves⟩ := h.put (append_tmp_ne_dots n) htmp c
  obtain ⟨hfilefile, hserves'⟩ := hserves.put hn (htmpfile.writable hfile) c
  have hboth := htmpfile.trans hfilefile
  rw [← hboth.directory] at htmpno
  have hne : l ++ [n] ≠ l ++ [n ++ ".tmp"] := by simpa using (append_tmp_ne n).symm
  refine ⟨hboth.trans ⟨rfl, fun k => ?_⟩, hserves'.proper.erase _⟩
  exact hserves'.proper.isDirectoryAt_erase htmpno (m := l ++ [n]) (by simp) hne (by simp)

theorem writeJson_child {α : Type} [Numeral α] (directory : Path) (n : String) (v : Json α) :
    writeJson (directory.child n) v = makeDirectories directory >>= fun _ =>
      match v.serialize with
      | .error cause => throw (.unwritable cause)
      | .ok text => write (directory.child (n ++ ".tmp")) text.toUTF8 >>= fun _ =>
        replace (directory.child (n ++ ".tmp")) (directory.child n) := by
  have hparts : ¬(directory.child n).parts.isEmpty := by simp [Path.child]
  rw [writeJson, Path.parent_child, Path.withSuffix_child]
  exact congrArg (makeDirectories directory >>= ·) (funext fun _ => if_neg hparts)

theorem runs_writeJson {α : Type} [Numeral α] {v : Json α} {text : String}
    (hmake : Runs (makeDirectories directory) fs () fs₀) (h : fs₀.Serves directory l)
    (hn : n ≠ "..") (hfile : fs₀.Writable (directory.child n))
    (htmp : fs₀.Writable (directory.child (n ++ ".tmp"))) (htext : v.serialize = .ok text) :
    Runs (writeJson (directory.child n) v) fs () (fs₀.written l n text.toUTF8) := by
  have hwrite := htmp.child h.located (append_tmp_ne_dots n)
  obtain ⟨htmpfile, hserves⟩ := h.put (append_tmp_ne_dots n) htmp text.toUTF8
  have hwrite' := (htmpfile.writable hfile).child hserves.located hn
  obtain ⟨hfilefile, -⟩ := hserves.put hn (htmpfile.writable hfile) text.toUTF8
  rw [writeJson_child, htext]
  refine hmake.bind (Runs.bind (runs_write hwrite _) (runs_replace ?_ ?_ ?_ ?_ hwrite' ?_))
  · exact htmpfile.locate (runs_writable.mp hwrite).2.1
  · rw [get?_put, if_pos rfl]
  · simp
  · simpa [Path.child] using hn
  · exact hfilefile.locate (runs_writable.mp hwrite').2.1

variable {α : Type} [Scalar α] {x : Exporter} {d : Diagram α} {text : String}

/-- The files that writing a diagram needs. -/
def Files.Accepts (fs : Files) (directory : Path) (d : Diagram α) : Prop :=
  ∀ suffix ∈ ["", ".tmp", ".lock"], fs.Writable (directory.child (d.symbol ++ ".json" ++ suffix))

theorem json_ne_dots (symbol suffix : String) : symbol ++ ".json" ++ suffix ≠ ".." := by
  intro h
  have hlen := congrArg String.length h
  rw [String.length_append, String.length_append, show ".json".length = 5 from rfl,
    show "..".length = 2 from rfl] at hlen
  omega

theorem Files.Accepts.located (h : fs.Accepts directory d) (hd : fs.Serves directory l)
    (suffix : String) (hs : suffix ∈ ["", ".tmp", ".lock"]) :
    Runs (FileAction.writable (directory.child (d.symbol ++ ".json" ++ suffix))) fs
      (l ++ [d.symbol ++ ".json" ++ suffix]) fs :=
  (h suffix hs).child hd.located (json_ne_dots _ _)

variable [Numeral α]

/-- One diagram more is in the files, and the directory serves as before. -/
theorem Exporter.runs_render (hmake : Runs (makeDirectories x.directory) fs () fs₀)
    (h : fs₀.Serves x.directory l) (hd : fs₀.Accepts x.directory d)
    (htext : d.payload.serialize = .ok text) :
    Runs (x.render d) fs (x.record (x.pathFor d.symbol))
      (fs₀.rendered l (d.symbol ++ ".json") text.toUTF8) ∧
    Alike fs₀ (fs₀.rendered l (d.symbol ++ ".json") text.toUTF8) ∧
    (fs₀.rendered l (d.symbol ++ ".json") text.toUTF8).Proper := by
  have hn : d.symbol ++ ".json" ≠ ".." := by simpa using json_ne_dots d.symbol ""
  have hlock := hd.located h ".lock" (by simp)
  obtain ⟨hlocked, hserves⟩ := h.put (json_ne_dots d.symbol ".lock") (hd ".lock" (by simp)) .empty
  have hfile := hlocked.writable (hd "" (by simp))
  rw [String.append_empty] at hfile
  have htmp := hlocked.writable (hd ".tmp" (by simp))
  obtain ⟨halike, hproper⟩ := hserves.written hn hfile htmp text.toUTF8
  refine ⟨?_, hlocked.trans halike, hproper⟩
  rw [Exporter.render, Exporter.pathFor, Path.parent_child, Path.withSuffix_child]
  have hagain := runs_makeDirectories_again hserves.there
  have hwrite := runs_writeJson hagain hserves hn hfile htmp htext
  exact hmake.bind ((runs_write hlock _).bind (hwrite.bind (runs_pure.mpr ⟨rfl, rfl⟩)))

end Railroad
