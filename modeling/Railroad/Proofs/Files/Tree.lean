import Mathlib.Data.List.Infix
import Railroad.Files
import Railroad.Proofs.Action

namespace Railroad

namespace Files

variable {fs fs' : Files} {k l : Location} {e : FileEntry} {c : ByteArray} {n : String} {p : Path}

theorem lookup_putEntry (l : Location) (e : FileEntry) (entries : List (Location × FileEntry))
    (k : Location) :
    (putEntry l e entries).lookup k = if k = l then some e else entries.lookup k := by
  induction entries with
  | nil =>
    by_cases hk : k = l
    · simp [putEntry, hk]
    · simp [putEntry, hk, List.lookup_cons, beq_false_of_ne hk]
  | cons entry entries ih =>
    obtain ⟨m, f⟩ := entry
    rw [putEntry]
    split
    · rename_i hm
      by_cases hk : k = l
      · simp [hk]
      · simp [hm, hk, List.lookup_cons, beq_false_of_ne hk]
    · rename_i hm
      by_cases hk : k = m
      · simp [hk, hm]
      · rw [List.lookup_cons, List.lookup_cons, beq_false_of_ne hk]
        exact ih

@[simp]
theorem get?_put (fs : Files) (l : Location) (e : FileEntry) (k : Location) :
    (fs.put l e).get? k = if k = l then some e else fs.get? k := lookup_putEntry ..

@[simp]
theorem get?_erase (fs : Files) (l k : Location) :
    (fs.erase l).get? k = if k = l then none else fs.get? k := by
  unfold get? erase
  induction fs.entries with
  | nil => simp
  | cons entry entries ih =>
    obtain ⟨m, f⟩ := entry
    by_cases hm : m = l
    · rw [List.filter_cons_of_neg (by simp [hm]), ih, List.lookup_cons, hm]
      by_cases hk : k = l
      · simp [hk]
      · simp [hk, beq_false_of_ne hk]
    · rw [List.filter_cons_of_pos (by simp [hm]), List.lookup_cons, List.lookup_cons, ih]
      by_cases hk : k = m
      · simp [hk, hm]
      · simp [beq_false_of_ne hk]

@[simp]
theorem working_erase (fs : Files) (l : Location) : (fs.erase l).working = fs.working := rfl

theorem isSome_get? : (fs.get? l).isSome ↔ ∃ e ∈ fs.entries, l = e.1 := by
  simp only [get?, List.lookup_isSome_iff, beq_iff_eq]

theorem isDirectoryAt_iff : fs.isDirectoryAt l ↔ fs.get? l = some .directory ∨
    fs.get? l = none ∧ (l <+: fs.working ∨ ∃ k, (fs.get? k).isSome ∧ l <+: k) := by
  have hbelow : (fs.entries.any fun e => l.isPrefixOf e.1) ↔
      ∃ k, (fs.get? k).isSome ∧ l <+: k := by
    simp only [List.any_eq_true, isSome_get?, List.isPrefixOf_iff_prefix]
    constructor
    · rintro ⟨e, he, hl⟩
      exact ⟨e.1, ⟨e, he, rfl⟩, hl⟩
    · rintro ⟨_, ⟨e, he, rfl⟩, hl⟩
      exact ⟨e, he, hl⟩
  unfold isDirectoryAt
  rcases fs.get? l with _ | _ | _
  · simp only [Bool.or_eq_true, hbelow, List.isPrefixOf_iff_prefix, reduceCtorEq, true_and,
      false_or]
  · simp
  · simp

theorem prefix_dropLast (h : k <+: l) (hne : k ≠ l) : k <+: l.dropLast := by
  obtain ⟨m, rfl⟩ := h
  have hm : m ≠ [] := by
    rintro rfl
    exact hne (List.append_nil k).symm
  rw [List.dropLast_append_of_ne_nil hm]
  exact List.prefix_append k _

/-- Nothing lies below a file. -/
def Proper (fs : Files) : Prop := ∀ l c, fs.get? l = some (.file c) →
  ¬l <+: fs.working ∧ ∀ k, (fs.get? k).isSome → l <+: k → k = l

namespace Proper

theorem above (h : fs.Proper) (hl : fs.isDirectoryAt l) (hk : k <+: l) : fs.isDirectoryAt k := by
  rw [isDirectoryAt_iff] at hl ⊢
  match hget : fs.get? k with
  | some .directory => exact .inl rfl
  | some (.file c) =>
    obtain ⟨hworking, hbelow⟩ := h k c hget
    rcases hl with hl | ⟨hl, hw | ⟨m, hm, hlm⟩⟩
    · rw [hbelow l (by rw [hl]; rfl) hk, hget] at hl
      cases hl
    · exact absurd (hk.trans hw) hworking
    · obtain rfl := hbelow m hm (hk.trans hlm)
      obtain rfl := hk.eq_of_length_le hlm.length_le
      rw [hget] at hl
      cases hl
  | none =>
    refine .inr ⟨rfl, ?_⟩
    rcases hl with hl | ⟨-, hw | ⟨m, hm, hlm⟩⟩
    · exact .inr ⟨l, by rw [hl]; rfl, hk⟩
    · exact .inl (hk.trans hw)
    · exact .inr ⟨m, hm, hk.trans hlm⟩

theorem working (h : fs.Proper) : fs.isDirectoryAt fs.working := by
  rw [isDirectoryAt_iff]
  match hget : fs.get? fs.working with
  | some .directory => exact .inl rfl
  | some (.file c) => exact absurd (List.prefix_refl _) (h _ c hget).1
  | none => exact .inr ⟨rfl, .inl (List.prefix_refl _)⟩

theorem below (h : fs.Proper) (hl : ¬fs.isDirectoryAt l) :
    ¬l <+: fs.working ∧ ∀ k, (fs.get? k).isSome → l <+: k → k = l := by
  match hget : fs.get? l with
  | some .directory => exact absurd (isDirectoryAt_iff.mpr (.inl hget)) hl
  | some (.file c) => exact h l c hget
  | none =>
    constructor
    · exact fun hw => hl (isDirectoryAt_iff.mpr (.inr ⟨hget, .inl hw⟩))
    · exact fun k hk hlk => absurd (isDirectoryAt_iff.mpr (.inr ⟨hget, .inr ⟨k, hk, hlk⟩⟩)) hl

theorem isDirectoryAt_put (h : fs.Proper) (hup : fs.isDirectoryAt l.dropLast) (hne : k ≠ l)
    (e : FileEntry) : (fs.put l e).isDirectoryAt k ↔ fs.isDirectoryAt k := by
  constructor
  · intro hk
    rw [isDirectoryAt_iff, get?_put, if_neg hne] at hk
    rcases hk with hk | ⟨hk, hw | ⟨m, hm, hkm⟩⟩
    · exact isDirectoryAt_iff.mpr (.inl hk)
    · exact isDirectoryAt_iff.mpr (.inr ⟨hk, .inl hw⟩)
    · by_cases hml : m = l
      · rw [hml] at hkm
        exact h.above hup (prefix_dropLast hkm hne)
      · rw [get?_put, if_neg hml] at hm
        exact isDirectoryAt_iff.mpr (.inr ⟨hk, .inr ⟨m, hm, hkm⟩⟩)
  · intro hk
    rw [isDirectoryAt_iff] at hk ⊢
    rw [get?_put, if_neg hne]
    rcases hk with hk | ⟨hk, hw | ⟨m, hm, hkm⟩⟩
    · exact .inl hk
    · exact .inr ⟨hk, .inl hw⟩
    · refine .inr ⟨hk, .inr ⟨m, ?_, hkm⟩⟩
      rw [get?_put]
      split
      · rfl
      · exact hm

theorem put (h : fs.Proper) (hl : ¬fs.isDirectoryAt l) (hup : fs.isDirectoryAt l.dropLast)
    (e : FileEntry) : (fs.put l e).Proper := by
  intro k c hk
  have hfile : ¬fs.isDirectoryAt k := by
    by_cases hkl : k = l
    · rwa [hkl]
    · rw [get?_put, if_neg hkl] at hk
      rw [isDirectoryAt_iff, hk]
      simp
  obtain ⟨hw, hbelow⟩ := h.below hfile
  refine ⟨hw, fun m hm hkm => ?_⟩
  by_cases hml : m = l
  · by_contra hmk
    rw [hml] at hkm hmk
    exact hfile (h.above hup (prefix_dropLast hkm (Ne.symm hmk)))
  · rw [get?_put, if_neg hml] at hm
    exact hbelow m hm hkm

/-- To remove a file from a directory in which something else lies leaves the directories. -/
theorem isDirectoryAt_erase (h : fs.Proper) (hl : ¬fs.isDirectoryAt l) {m : Location}
    (hm : (fs.get? m).isSome) (hml : m ≠ l) (hup : l.dropLast <+: m) :
    (fs.erase l).isDirectoryAt k ↔ fs.isDirectoryAt k := by
  obtain ⟨hw, hbelow⟩ := h.below hl
  by_cases hkl : k = l
  · subst hkl
    refine iff_of_false (fun hk => ?_) hl
    rw [isDirectoryAt_iff, get?_erase, if_pos rfl] at hk
    rcases hk with hk | ⟨-, hk | ⟨n, hn, hkn⟩⟩
    · cases hk
    · exact hw hk
    · rw [get?_erase] at hn
      split at hn
      · cases hn
      · rename_i hne
        exact hne (hbelow n hn hkn)
  · rw [isDirectoryAt_iff, isDirectoryAt_iff, get?_erase, if_neg hkl, working_erase]
    refine or_congr_right (and_congr_right fun _ => or_congr_right ⟨?_, ?_⟩)
    · rintro ⟨n, hn, hkn⟩
      rw [get?_erase] at hn
      split at hn
      · cases hn
      · exact ⟨n, hn, hkn⟩
    · rintro ⟨n, hn, hkn⟩
      by_cases hnl : n = l
      · rw [hnl] at hkn
        refine ⟨m, ?_, (prefix_dropLast hkn hkl).trans hup⟩
        rwa [get?_erase, if_neg hml]
      · exact ⟨n, by rwa [get?_erase, if_neg hnl], hkn⟩

theorem erase (h : fs.Proper) (l : Location) : (fs.erase l).Proper := by
  intro k c hk
  rw [get?_erase] at hk
  split at hk
  · cases hk
  · obtain ⟨hw, hbelow⟩ := h k c hk
    refine ⟨hw, fun m hm hkm => ?_⟩
    rw [get?_erase] at hm
    split at hm
    · cases hm
    · exact hbelow m hm hkm

end Proper

/-- The same directories are in both trees. -/
structure Alike (fs fs' : Files) : Prop where
  working : fs'.working = fs.working
  directory (l : Location) : fs'.isDirectoryAt l ↔ fs.isDirectoryAt l

theorem Alike.refl (fs : Files) : Alike fs fs := ⟨rfl, fun _ => .rfl⟩

theorem Alike.trans {fs'' : Files} (h : Alike fs fs') (h' : Alike fs' fs'') : Alike fs fs'' :=
  ⟨h'.working.trans h.working, fun l => (h'.directory l).trans (h.directory l)⟩

theorem step_eq_ok : fs.step l n = .ok k ↔ fs.isDirectoryAt l ∧ n.utf8ByteSize ≤ nameLimit ∧
    (if n = ".." then l.dropLast else l ++ [n]) = k := by
  unfold step
  split
  · rename_i hl
    refine iff_of_false (fun h => nomatch h) fun h => ?_
    rw [h.1] at hl
    cases hl
  · rename_i hl
    split
    · rename_i hn
      exact iff_of_false (fun h => nomatch h) fun h => Nat.not_lt.mpr h.2.1 hn
    · rename_i hn
      rw [Except.ok.injEq]
      exact ⟨fun h => ⟨by simpa using hl, Nat.not_lt.mp hn, h⟩, fun h => h.2.2⟩

theorem locate_eq_ok : fs.locate p = .ok l ↔ checkPath p = .ok () ∧
    p.parts.foldlM fs.step (if p.slashes = 0 then fs.working else []) = .ok l := by
  rw [locate, bind_eq_ok]
  exact ⟨fun ⟨_, h⟩ => h, fun h => ⟨_, h⟩⟩

/-- What holds of the start of every path and of every step from a directory holds of all
locations. -/
theorem locate_induction {motive : Location → Prop} (h : fs.locate p = .ok l)
    (root : motive []) (working : motive fs.working)
    (step : ∀ l n, motive l → fs.isDirectoryAt l →
      motive (if n = ".." then l.dropLast else l ++ [n])) : motive l := by
  obtain ⟨-, h⟩ := locate_eq_ok.mp h
  have hstart : motive (if p.slashes = 0 then fs.working else []) := by
    split
    · exact working
    · exact root
  generalize (if p.slashes = 0 then fs.working else []) = k at h hstart
  generalize p.parts = parts at h
  induction parts generalizing k with
  | nil =>
    cases h
    exact hstart
  | cons n parts ih =>
    rw [List.foldlM_cons, bind_eq_ok] at h
    obtain ⟨m, hm, h⟩ := h
    obtain ⟨hk, -, rfl⟩ := step_eq_ok.mp hm
    exact ih _ (step k n hstart hk) h

theorem Proper.isDirectoryAt_dropLast (hfs : fs.Proper) (h : fs.locate p = .ok l) :
    fs.isDirectoryAt l.dropLast := by
  refine locate_induction (motive := fun l => fs.isDirectoryAt l.dropLast) h ?_ ?_ ?_
  · exact hfs.above hfs.working List.nil_prefix
  · exact hfs.above hfs.working (List.dropLast_prefix _)
  · intro l n hl hdir
    split
    · exact hfs.above hl (List.dropLast_prefix _)
    · rwa [List.dropLast_concat]

theorem locate_mono (hw : fs'.working = fs.working)
    (hd : ∀ l, fs.isDirectoryAt l → fs'.isDirectoryAt l) (h : fs.locate p = .ok l) :
    fs'.locate p = .ok l := by
  rw [locate_eq_ok] at h ⊢
  refine ⟨h.1, ?_⟩
  rw [hw]
  replace h := h.2
  generalize (if p.slashes = 0 then fs.working else []) = k at h ⊢
  generalize p.parts = parts at h ⊢
  induction parts generalizing k with
  | nil => exact h
  | cons n parts ih =>
    rw [List.foldlM_cons, bind_eq_ok] at h ⊢
    obtain ⟨m, hm, h⟩ := h
    obtain ⟨hk, hrest⟩ := step_eq_ok.mp hm
    exact ⟨m, step_eq_ok.mpr ⟨hd k hk, hrest⟩, ih m h⟩

theorem Alike.locate (h : Alike fs fs') (hl : fs.locate p = .ok l) : fs'.locate p = .ok l :=
  locate_mono h.working (fun l hl => (h.directory l).mpr hl) hl

theorem locate_child_eq (h : fs.locate p = .ok l) (n : String) :
    fs.locate (p.child n) = checkPath (p.child n) >>= fun _ => fs.step l n := by
  obtain ⟨-, hl⟩ := locate_eq_ok.mp h
  rw [locate, show (p.child n).parts = p.parts ++ [n] from rfl, List.foldlM_append,
    show (p.child n).slashes = p.slashes from rfl, hl]
  simp only [List.foldlM_cons, List.foldlM_nil, bind_pure]
  rfl

theorem locate_child (h : fs.locate p = .ok l) (hn : n ≠ "..")
    (hk : fs.locate (p.child n) = .ok k) : k = l ++ [n] := by
  rw [locate_child_eq h, bind_eq_ok] at hk
  obtain ⟨-, -, hk⟩ := hk
  obtain ⟨-, -, rfl⟩ := step_eq_ok.mp hk
  rw [if_neg hn]

theorem isDirectory_iff : fs.isDirectory p ↔ ∃ l, fs.locate p = .ok l ∧ fs.isDirectoryAt l := by
  unfold isDirectory
  cases fs.locate p with
  | ok l => simp
  | error e => simp

theorem exists?_eq_true : fs.exists? p = .ok true ↔ ∃ l, fs.locate p = .ok l ∧ fs.existsAt l := by
  unfold exists?
  split
  · rename_i l hl
    simp [hl]
  · rename_i hl
    simp [hl]
  · rename_i e _ hl
    simp [hl]

theorem read_eq_ok : fs.read p = .ok c ↔ ∃ l, fs.locate p = .ok l ∧ fs.get? l = some (.file c) := by
  rw [read, bind_eq_ok]
  refine exists_congr fun l => and_congr_right fun _ => ?_
  split
  · rename_i content hl
    rw [hl]
    constructor
    · intro h
      cases h
      rfl
    · intro h
      cases h
      rfl
  · rename_i hne
    exact iff_of_false (fun h => nomatch h) fun h => hne c h

end Files

end Railroad
