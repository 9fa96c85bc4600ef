import Mathlib.Data.List.TakeWhile
import Mathlib.Logic.Unique
import Railroad.Proofs.Files.Tree

namespace Railroad

namespace Path

@[simp]
theorem parent_child (p : Path) (n : String) : (p.child n).parent = p := by
  simp [child, parent]

theorem splitName_append (name : String) : (splitName name).1 ++ (splitName name).2 = name := by
  rw [splitName]
  split
  · exact String.append_empty
  · rename_i hname
    obtain ⟨dot, stem, hrest⟩ : ∃ dot stem,
        name.toList.reverse.dropWhile (· ≠ '.') = dot :: stem := by
      refine List.exists_cons_of_ne_nil fun hnil => hname (.inr ?_)
      rw [hnil]
      exact Nat.zero_le 1
    have hdot : dot = '.' := by
      have hhead := List.head_dropWhile_not _ (ne_of_eq_of_ne hrest (List.cons_ne_nil dot stem))
      simp only [hrest, List.head_cons] at hhead
      simpa using hhead
    have hwhole := List.takeWhile_append_dropWhile (p := (· ≠ '.')) (l := name.toList.reverse)
    rw [hrest, hdot] at hwhole
    have hreverse := congrArg List.reverse hwhole
    rw [List.reverse_append, List.reverse_cons, List.append_assoc, List.reverse_reverse] at hreverse
    rw [hrest, ← String.ofList_append]
    exact (congrArg String.ofList hreverse).trans String.ofList_toList

theorem withSuffix_child (p : Path) (n s : String) :
    (p.child n).withSuffix ((p.child n).suffix ++ s) = p.child (n ++ s) := by
  have hlast : (p.child n).parts.getLast? = some n := List.getLast?_concat
  rw [withSuffix, suffix, hlast]
  simp only [parent_child, ← String.append_assoc, splitName_append]

theorem intercalate_concat (sep n s : String) (ns : List String) :
    sep.intercalate (ns ++ [n ++ s]) = sep.intercalate (ns ++ [n]) ++ s := by
  induction ns with
  | nil => simp
  | cons m ns ih =>
    rw [List.cons_append, List.cons_append, String.intercalate_cons_of_ne_nil (by simp),
      String.intercalate_cons_of_ne_nil (by simp), ih, ← String.append_assoc]

theorem toString_child (p : Path) (n : String) : (p.child n).toString =
    String.ofList (List.replicate p.slashes '/') ++ "/".intercalate (p.parts ++ [n]) := by
  rw [Path.toString]
  split
  · rename_i h
    simp [child] at h
  · rfl

theorem toString_child_append (p : Path) (n s : String) :
    (p.child (n ++ s)).toString = (p.child n).toString ++ s := by
  rw [toString_child, toString_child, intercalate_concat, String.append_assoc]

theorem hasNull_child (p : Path) (n : String) :
    (p.child n).hasNull = (p.hasNull || n.toList.contains '\x00') := by
  simp [hasNull, child]

end Path

namespace Files

variable {fs : Files} {p directory : Path} {n s : String} {l : Location}

theorem checkPath_eq_ok : checkPath p = .ok () ↔
    p.hasNull = false ∧ p.toString.utf8ByteSize ≤ pathLimit := by
  unfold checkPath
  cases p.hasNull <;> simp

/-- A name can be given to a file in a directory. -/
def Nameable (directory : Path) (n : String) : Prop :=
  checkPath (directory.child n) = .ok () ∧ n.utf8ByteSize ≤ nameLimit

/-- A name can be given if a longer one can. -/
theorem Nameable.of_append (h : Nameable directory (n ++ s)) : Nameable directory n := by
  obtain ⟨hpath, hsize⟩ := h
  rw [checkPath_eq_ok, Path.toString_child_append, Path.hasNull_child,
    String.utf8ByteSize_append] at hpath
  rw [String.utf8ByteSize_append] at hsize
  refine ⟨checkPath_eq_ok.mpr ⟨?_, by omega⟩, by omega⟩
  rw [Path.hasNull_child]
  simp_all

theorem exists_locate_child (h : fs.locate directory = .ok l) (hl : fs.isDirectoryAt l) :
    (∃ k, fs.locate (directory.child n) = .ok k) ↔ Nameable directory n := by
  rw [locate_child_eq h]
  simp [bind_eq_ok, step_eq_ok, hl, Nameable, Unique.exists_iff]

end Files

end Railroad
