import Mathlib.Logic.Unique
import Railroad.Proofs.Files.Names

namespace Railroad

namespace Path

def ancestor (p : Path) (n : Nat) : Path := ⟨p.slashes, p.parts.take n⟩

theorem ancestor_length (p : Path) : p.ancestor p.parts.length = p := by
  simp [ancestor]

end Path

namespace Files

/-- Directories are added and nothing else. -/
structure Widens (fs fs' : Files) : Prop where
  working : fs'.working = fs.working
  entries (l : Location) : fs'.get? l = fs.get? l ∨
    fs.get? l = none ∧ fs'.get? l = some .directory
  directory (l : Location) (h : fs.isDirectoryAt l) : fs'.isDirectoryAt l

namespace Widens

variable {fs fs' fs'' : Files} {p : Path}

theorem refl (fs : Files) : Widens fs fs := ⟨rfl, fun _ => .inl rfl, fun _ h => h⟩

theorem trans (h : Widens fs fs') (h' : Widens fs' fs'') : Widens fs fs'' where
  working := h'.working.trans h.working
  entries l := by
    rcases h.entries l with hl | ⟨hl, hd⟩
    · rw [← hl]
      exact h'.entries l
    · rcases h'.entries l with hl' | ⟨hl', -⟩
      · exact .inr ⟨hl, hl'.trans hd⟩
      · rw [hd] at hl'
        cases hl'
  directory l hl := h'.directory l (h.directory l hl)

theorem isDirectory (h : Widens fs fs') (hp : fs.isDirectory p) : fs'.isDirectory p := by
  obtain ⟨l, hl, hd⟩ := isDirectory_iff.mp hp
  exact isDirectory_iff.mpr ⟨l, locate_mono h.working h.directory hl, h.directory l hd⟩

end Widens

theorem existsAt_eq_false {fs : Files} {l : Location} :
    fs.existsAt l = false ↔ ¬fs.isDirectoryAt l ∧ fs.get? l = none := by
  simp [existsAt]

theorem Proper.widens_put {fs : Files} {l : Location} (h : fs.Proper)
    (hup : fs.isDirectoryAt l.dropLast) (hl : fs.get? l = none) :
    Widens fs (fs.put l .directory) := by
  refine ⟨rfl, fun k => ?_, fun k hk => ?_⟩
  · rw [get?_put]
    split
    · rename_i hk
      exact .inr ⟨hk ▸ hl, rfl⟩
    · exact .inl rfl
  · by_cases hkl : k = l
    · rw [hkl, isDirectoryAt_iff, get?_put, if_pos rfl]
      exact .inl rfl
    · exact (h.isDirectoryAt_put hup hkl .directory).mpr hk

end Files

namespace FileAction

open Files

variable {fs fs' : Files} {p : Path} {l : Location} {u : Unit} {content : ByteArray}

@[simp]
theorem runs_ofExcept {β : Type} {f : Files → Except FileFault β} {x : β} :
    Runs (ofExcept f) fs x fs' ↔ f fs = .ok x ∧ fs = fs' := by
  rw [ofExcept, runs_bind]
  simp only [runs_get]
  constructor
  · rintro ⟨_, _, ⟨rfl, rfl⟩, h⟩
    split at h
    · rename_i hf
      rw [runs_pure] at h
      exact ⟨hf.trans (congrArg _ h.1), h.2⟩
    · exact absurd h runs_throw
  · rintro ⟨hf, rfl⟩
    refine ⟨fs, fs, ⟨rfl, rfl⟩, ?_⟩
    rw [hf]
    simp

theorem fails_ofExcept {β : Type} {f : Files → Except FileFault β} {e : FileFault}
    (h : f fs = .error e) : Fails (ofExcept f) fs e fs := by
  refine Runs.bind_fails (runs_get.mpr ⟨rfl, rfl⟩) ?_
  rw [h]
  exact fails_throw

theorem runs_makeDirectory : Runs (makeDirectory p) fs u fs' ↔ ∃ l, fs.locate p = .ok l ∧
    (fs.isDirectoryAt l ∧ fs = fs' ∨ fs.existsAt l = false ∧ fs.put l .directory = fs') := by
  simp only [makeDirectory, runs_bind, runs_ofExcept, runs_get, exists_and_left, exists_eq_left',
    and_assoc, runs_ite, runs_pure, runs_throw, runs_set, true_and]
  refine exists_congr fun l => and_congr_right fun _ => ?_
  cases hl : fs.isDirectoryAt l <;> cases he : fs.existsAt l <;> simp_all [existsAt]

theorem runs_writable : Runs (writable p) fs l fs' ↔ fs = fs' ∧ fs.locate p = .ok l ∧
    ¬fs.isDirectoryAt l ∧ fs.isDirectoryAt l.dropLast := by
  simp only [writable, runs_bind, runs_ofExcept, runs_get, exists_and_left, exists_eq_left',
    and_assoc, runs_ite, runs_pure, runs_throw]
  constructor
  · rintro ⟨k, hk, h⟩
    split at h
    · exact h.elim
    · rename_i hl
      split at h
      · exact h.elim
      · rename_i hup
        obtain ⟨rfl, rfl⟩ := h
        exact ⟨rfl, hk, hl, by simpa using hup⟩
  · rintro ⟨rfl, hk, hl, hup⟩
    refine ⟨l, hk, ?_⟩
    rw [if_neg hl, if_neg (by simp [hup])]
    exact ⟨rfl, rfl⟩

theorem runs_write (h : Runs (writable p) fs l fs) (content : ByteArray) :
    Runs (write p content) fs () (fs.put l (.file content)) :=
  h.bind (runs_modify.mpr rfl)

theorem fails_write {e : FileFault} (h : fs.locate p = .error e) (content : ByteArray) :
    Fails (write p content) fs e fs :=
  (fails_ofExcept h).bind.bind

theorem runs_replace {q : Path} {k : Location} (hq : fs.locate q = .ok k)
    (hk : fs.get? k = some (.file content)) (hne : k ≠ l) (hparts : p.parts.getLast? ≠ some "..")
    (hp : Runs (writable p) fs l fs)
    (hp' : (fs.put l (.file content)).locate p = .ok l) :
    Runs (replace q p) fs () ((fs.put l (.file content)).erase k) := by
  refine Runs.bind (runs_ofExcept.mpr ⟨read_eq_ok.mpr ⟨k, hq, hk⟩, rfl⟩) ?_
  refine Runs.bind (runs_ofExcept.mpr ⟨hq, rfl⟩) ?_
  rw [if_neg hparts]
  refine Runs.bind (runs_write hp content) ?_
  refine Runs.bind (runs_ofExcept.mpr ⟨hp', rfl⟩) ?_
  rw [if_neg hne.symm]
  exact runs_modify.mpr rfl

theorem fails_writable (hp : fs.locate p = .ok l) (hl : fs.isDirectoryAt l) :
    Fails (writable p) fs .isDirectory fs := by
  refine Runs.bind_fails (runs_ofExcept.mpr ⟨hp, rfl⟩) ?_
  refine Runs.bind_fails (runs_get.mpr ⟨rfl, rfl⟩) ?_
  rw [if_pos hl]
  exact fails_throw

theorem fails_replace {q : Path} {k : Location} (hq : fs.locate q = .ok k)
    (hk : fs.get? k = some (.file content)) (hparts : p.parts.getLast? ≠ some "..")
    (hp : fs.locate p = .ok l) (hl : fs.isDirectoryAt l) :
    Fails (replace q p) fs .isDirectory fs := by
  refine Runs.bind_fails (runs_ofExcept.mpr ⟨read_eq_ok.mpr ⟨k, hq, hk⟩, rfl⟩) ?_
  refine Runs.bind_fails (runs_ofExcept.mpr ⟨hq, rfl⟩) ?_
  rw [if_neg hparts]
  exact (fails_writable hp hl).bind.bind

theorem runs_makeDirectories : Runs (makeDirectories p) fs u fs' ↔ checkPath p = .ok () ∧
    Runs ((List.range (p.parts.length + 1)).forM fun n => makeDirectory (p.ancestor n)) fs u
      fs' := by
  simp only [makeDirectories, runs_bind, runs_ofExcept, and_assoc, exists_and_left,
    exists_eq_left', Unique.exists_iff]
  refine and_congr_right fun _ => runs_forM_congr fun n fs u fs' => ?_
  split
  · rfl
  · refine runs_tryCatch fun e fs u fs' => ?_
    split <;> exact runs_throw

/-- Making a directory adds directories, and those that lead to it are there then. -/
theorem Proper.of_makeDirectories (h : fs.Proper) (hmake : Runs (makeDirectories p) fs u fs') :
    fs'.Proper ∧ Widens fs fs' ∧ ∀ n ≤ p.parts.length, fs'.isDirectory (p.ancestor n) := by
  replace hmake := (runs_makeDirectories.mp hmake).2
  suffices hlist : ∀ ns : List Nat, Runs (ns.forM fun n => makeDirectory (p.ancestor n)) fs u fs' →
      fs'.Proper ∧ Widens fs fs' ∧ ∀ n ∈ ns, fs'.isDirectory (p.ancestor n) by
    obtain ⟨hfs', hwide, hdir⟩ := hlist _ hmake
    exact ⟨hfs', hwide, fun n hn => hdir n (List.mem_range.mpr (Nat.lt_succ_of_le hn))⟩
  clear hmake
  intro ns hmake
  induction ns generalizing fs with
  | nil =>
    obtain ⟨-, rfl⟩ := runs_pure.mp hmake
    exact ⟨h, .refl fs, List.forall_mem_nil _⟩
  | cons n ns ih =>
    obtain ⟨fs₁, hfirst, hmake⟩ := runs_forM_cons.mp hmake
    have hstep : fs₁.Proper ∧ Widens fs fs₁ ∧ fs₁.isDirectory (p.ancestor n) := by
      obtain ⟨l, hl, ⟨hdir, rfl⟩ | ⟨hno, rfl⟩⟩ := runs_makeDirectory.mp hfirst
      · exact ⟨h, .refl fs, isDirectory_iff.mpr ⟨l, hl, hdir⟩⟩
      · obtain ⟨hdir, hnone⟩ := existsAt_eq_false.mp hno
        have hup := h.isDirectoryAt_dropLast hl
        have hwide := h.widens_put hup hnone
        refine ⟨h.put hdir hup _, hwide, isDirectory_iff.mpr ⟨l, ?_, ?_⟩⟩
        · exact locate_mono hwide.working hwide.directory hl
        · rw [isDirectoryAt_iff, get?_put, if_pos rfl]
          exact .inl rfl
    obtain ⟨hfs₁, hwide₁, hdir₁⟩ := hstep
    obtain ⟨hfs', hwide, hdir⟩ := ih hfs₁ hmake
    exact ⟨hfs', hwide₁.trans hwide, List.forall_mem_cons.mpr ⟨hwide.isDirectory hdir₁, hdir⟩⟩

/-- To make a directory again does nothing. -/
theorem runs_makeDirectories_again (h : ∀ n ≤ p.parts.length, fs.isDirectory (p.ancestor n)) :
    Runs (makeDirectories p) fs () fs := by
  refine runs_makeDirectories.mpr ⟨?_, ?_⟩
  · obtain ⟨l, hl, -⟩ := isDirectory_iff.mp (h _ (Nat.le_refl _))
    rw [Path.ancestor_length] at hl
    exact (locate_eq_ok.mp hl).1
  · have hlist : ∀ n ∈ List.range (p.parts.length + 1), fs.isDirectory (p.ancestor n) :=
      fun n hn => h n (Nat.le_of_lt_succ (List.mem_range.mp hn))
    generalize List.range (p.parts.length + 1) = ns at hlist ⊢
    induction ns with
    | nil => exact runs_pure.mpr ⟨rfl, rfl⟩
    | cons n ns ih =>
      obtain ⟨hn, hns⟩ := List.forall_mem_cons.mp hlist
      obtain ⟨l, hl, hdir⟩ := isDirectory_iff.mp hn
      exact runs_forM_cons.mpr ⟨fs, runs_makeDirectory.mpr ⟨l, hl, .inl ⟨hdir, rfl⟩⟩, ih hns⟩

end FileAction

end Railroad
