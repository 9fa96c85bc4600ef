import Railroad.GrammarFile
import Railroad.Proofs.Files.Tree

namespace Railroad

variable {fs : Files} {p q : Path}

namespace Files

def grammarPaths (fs : Files) (p : Path) : List Path :=
  match fs.locate p with
  | .ok l =>
    if fs.isDirectoryAt l then
      (((fs.names l).filter isGrammarName).mergeSort fun a b => ¬b < a).map p.child
    else if fs.existsAt l then [p] else []
  | .error _ => []

def grammarText (fs : Files) (q : Path) : List Char := (fs.readGrammar q).toOption.getD []

def grammars (fs : Files) (p : Path) : List (Path × List Char) :=
  (fs.grammarPaths p).map fun q => (q, fs.grammarText q)

theorem readGrammar_grammarText (h : ∃ source, fs.readGrammar q = .ok source) :
    fs.readGrammar q = .ok (fs.grammarText q) := by
  obtain ⟨source, h⟩ := h
  rw [grammarText, h]
  rfl

theorem readGrammars_eq (hp : fs.isDirectory p)
    (h : ∀ q ∈ fs.grammarPaths p, ∃ source, fs.readGrammar q = .ok source) :
    fs.readGrammars p = .ok (fs.grammars p) := by
  obtain ⟨l, hl, hdir⟩ := isDirectory_iff.mp hp
  rw [grammars]
  simp only [grammarPaths, hl, hdir, if_true, List.map_map] at h ⊢
  rw [readGrammars, hl]
  refine mapM_eq_ok fun name hname => ?_
  rw [readGrammar_grammarText (h _ (List.mem_map.mpr ⟨name, hname, rfl⟩))]
  rfl

end Files

end Railroad
