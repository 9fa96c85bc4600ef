import Railroad.Command
import Railroad.Proofs.Action
import Railroad.Proofs.Text.Markup

namespace Railroad

variable {β γ ι : Type} {a : CommandAction β} {f : β → CommandAction γ} {fs fs' fs'' : Files}
  {b : β} {lines lines' : List String}

/-- An action on the files ends so, with other files, and has printed the lines. -/
def Ends (a : CommandAction β) (fs : Files) (r : Except Stop β) (fs' : Files)
    (lines : List String) : Prop :=
  ∀ printed, (a.run.run ⟨fs, printed⟩).run = (r, ⟨fs', printed ++ lines⟩)

namespace CommandAction

theorem ends_pure (b : β) (fs : Files) : Ends (pure b) fs (.ok b) fs [] := by
  intro printed
  rw [List.append_nil]
  rfl

theorem ends_throw (e : Stop) (fs : Files) :
    Ends (throw e : CommandAction β) fs (.error e) fs [] := by
  intro printed
  rw [List.append_nil]
  rfl

theorem ends_printLines (lines : List String) (fs : Files) :
    Ends (printLines lines) fs (.ok ()) fs lines := fun _ => rfl

theorem ends_bind {r : Except Stop γ} (ha : Ends a fs (.ok b) fs' lines)
    (hf : Ends (f b) fs' r fs'' lines') : Ends (a >>= f) fs r fs'' (lines ++ lines') := by
  intro printed
  rw [run_bind, ha printed, ← List.append_assoc]
  exact hf (printed ++ lines)

theorem ends_bind_error {e : Stop} (ha : Ends a fs (.error e) fs' lines) :
    Ends (a >>= f) fs (.error e) fs' lines := by
  intro printed
  rw [run_bind, ha printed]

/-- An action that prints nothing adds no lines. -/
theorem ends_bind_quiet {r : Except Stop γ} (ha : Ends a fs (.ok b) fs' [])
    (hf : Ends (f b) fs' r fs'' lines) : Ends (a >>= f) fs r fs'' lines := ends_bind ha hf

theorem ends_bind_last {r : Except Stop γ} (ha : Ends a fs (.ok b) fs' lines)
    (hf : Ends (f b) fs' r fs'' []) : Ends (a >>= f) fs r fs'' lines := by
  have h := ends_bind ha hf
  rwa [List.append_nil] at h

theorem ends_print [Terminal] {markup : String} (h : Markup.fault? markup = none) (fs : Files) :
    Ends (print markup) fs (.ok ()) fs (longLines markup) := by
  rw [print, h]
  exact ends_printLines _ fs

theorem ends_get (fs : Files) {r : Except Stop γ} {g : World → CommandAction γ}
    (h : ∀ printed, ((g ⟨fs, printed⟩).run.run ⟨fs, printed⟩).run = (r, ⟨fs', printed ++ lines⟩)) :
    Ends (get >>= g) fs r fs' lines := h

theorem ends_ofFiles {g : Files → Except FileFault β} (h : g fs = .ok b) :
    Ends (ofFiles g) fs (.ok b) fs [] := by
  refine ends_get fs fun printed => ?_
  rw [h, List.append_nil]
  rfl

theorem ends_ofFiles_error {g : Files → Except FileFault β} {e : FileFault} (h : g fs = .error e) :
    Ends (ofFiles g) fs (.error (.crash (.files e))) fs [] := by
  refine ends_get fs fun printed => ?_
  rw [h, List.append_nil]
  rfl

theorem ends_onFiles {a : FileAction β} (h : Runs a fs b fs') :
    Ends (onFiles a) fs (.ok b) fs' [] := by
  have hrun : a.run.run fs = (Except.ok b, fs') := h
  refine ends_get fs fun printed => ?_
  rw [hrun, List.append_nil]
  rfl

theorem ends_mapM {xs : List ι} {g : ι → CommandAction β} (value : ι → β)
    (text : ι → List String) (h : ∀ x ∈ xs, Ends (g x) fs (.ok (value x)) fs (text x)) :
    Ends (xs.mapM g) fs (.ok (xs.map value)) fs (xs.flatMap text) := by
  induction xs with
  | nil => exact ends_pure [] fs
  | cons x xs ih =>
    obtain ⟨hx, hxs⟩ := List.forall_mem_cons.mp h
    rw [List.mapM_cons, List.flatMap_cons]
    exact ends_bind hx (ends_bind_last (ih hxs) (ends_pure _ fs))

theorem ends_forM {xs : List ι} {g : ι → CommandAction Unit} {text : ι → List String}
    (h : ∀ x ∈ xs, Ends (g x) fs (.ok ()) fs (text x)) :
    Ends (xs.forM g) fs (.ok ()) fs (xs.flatMap text) := by
  induction xs with
  | nil => exact ends_pure () fs
  | cons x xs ih =>
    obtain ⟨hx, hxs⟩ := List.forall_mem_cons.mp h
    exact ends_bind hx (ih hxs)

theorem ends_finish (failures : List Bool) (fs : Files) :
    Ends (finish failures) fs (if failures.any id then .error (.exit 1) else .ok ()) fs [] := by
  unfold finish
  split
  · exact ends_throw _ fs
  · exact ends_pure () fs

end CommandAction

def Path.Plain (p : Path) : Prop := Markup.Unmarked p.toString.toList

instance (p : Path) : Decidable p.Plain :=
  inferInstanceAs (Decidable (Markup.Unmarked p.toString.toList))

theorem not_mem_toString (n : Nat) : '[' ∉ (toString n).toList := by
  intro h
  have hdigit := Nat.isDigit_of_mem_toDigits (b := 10) (n := n) (c := '[') (by decide) (by decide)
  rw [show toString n = String.ofList (Nat.toDigits 10 n) from rfl, String.toList_ofList] at h
  exact absurd (hdigit h) (by decide)

namespace Markup

variable {p : Path}

theorem Unmarked.blank {b : List Char} (h : Unmarked b) : Unmarked (' ' :: b) :=
  unmarked_cons.mpr ⟨tag?_of_ne (by decide) b, h⟩

theorem fault?_notFound (h : p.Plain) :
    fault? ("[red]File not found:[/] " ++ p.toString) = none := by
  refine fault?_styled "red" "File not found:".toList (' ' :: p.toString.toList) (by decide) ?_
    (by decide) h.blank.tags
  simp

theorem fault?_noGrammars (h : p.Plain) :
    fault? ("[yellow]No grammar files found in " ++ p.toString ++ "[/]") = none := by
  refine fault?_styled "yellow" ("No grammar files found in ".toList ++ p.toString.toList) []
    (by decide) ?_ (unmarked_append (by decide) h) (tags_nil 0)
  simp

theorem fault?_errorText (h : p.Plain) (d : Diagnostic) : fault? (errorText p d) = none := by
  have hescape : tags 0 (' ' :: (escape d.describe).toList) = [] := by
    rw [tags_char (tag?_of_ne (by decide) _) (by decide), tags_escape]
  refine fault?_styled "red" (p.toString.toList ++ [':']) (' ' :: (escape d.describe).toList)
    (by decide) ?_ (h.append (by decide) (by decide)) hescape
  simp [errorText]

theorem fault?_parsed (h : p.Plain) (n : Nat) :
    fault? ("[green]" ++ toString n ++ " rule(s) parsed[/] from " ++ p.toString) = none := by
  refine fault?_styled "green" ((toString n).toList ++ " rule(s) parsed".toList)
    (" from ".toList ++ p.toString.toList) (by decide) ?_
    (unmarked_append (not_mem_toString n) (by decide)) (unmarked_append (by decide) h).tags
  simp

theorem fault?_wrote (h : p.Plain) : fault? ("[green]Wrote[/] " ++ p.toString) = none := by
  refine fault?_styled "green" "Wrote".toList (' ' :: p.toString.toList) (by decide) ?_
    (by decide) h.blank.tags
  simp

end Markup

end Railroad
