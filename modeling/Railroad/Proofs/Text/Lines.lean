import Mathlib.Data.List.Basic
import Railroad.Text.Lines

namespace Railroad

variable {c d : Char} {a s t : List Char} {lines : List (List Char)}

theorem exists_piece (d : Char) (s : List Char) :
    ∃ a, d ∉ a ∧ (s = a ∨ ∃ t, s = a ++ d :: t) := by
  induction s with
  | nil => exact ⟨[], List.not_mem_nil, .inl rfl⟩
  | cons c s ih =>
    by_cases hc : c = d
    · exact ⟨[], List.not_mem_nil, .inr ⟨s, by rw [hc]; rfl⟩⟩
    · obtain ⟨a, ha, hs⟩ := ih
      refine ⟨c :: a, List.not_mem_cons_of_ne_of_not_mem (Ne.symm hc) ha, ?_⟩
      rcases hs with rfl | ⟨t, rfl⟩
      · exact .inl rfl
      · exact .inr ⟨t, rfl⟩

theorem piece_induction {motive : List Char → Prop} (d : Char) (last : ∀ a, d ∉ a → motive a)
    (more : ∀ a t, d ∉ a → motive t → motive (a ++ d :: t)) (s : List Char) : motive s := by
  obtain ⟨a, ha, hs | ⟨t, hs⟩⟩ := exists_piece d s
  · rw [hs]
    exact last a ha
  · have hlt : t.length < s.length := by
      rw [hs, List.length_append, List.length_cons]
      omega
    rw [hs]
    exact more a t ha (piece_induction d last more t)
termination_by s.length

theorem splitAt_of_not_mem (h : d ∉ a) : splitAt d a = [a] := by
  induction a with
  | nil => rfl
  | cons c a ih =>
    rw [splitAt, if_neg (List.ne_of_not_mem_cons h).symm, ih (List.not_mem_of_not_mem_cons h)]

theorem splitAt_append_cons (h : d ∉ a) (s : List Char) :
    splitAt d (a ++ d :: s) = a :: splitAt d s := by
  induction a with
  | nil => rw [List.nil_append, splitAt, if_pos rfl]
  | cons c a ih =>
    rw [List.cons_append, splitAt, if_neg (List.ne_of_not_mem_cons h).symm,
      ih (List.not_mem_of_not_mem_cons h)]

theorem splitAt_ne_nil (d : Char) (s : List Char) : splitAt d s ≠ [] := by
  obtain ⟨a, ha, rfl | ⟨t, rfl⟩⟩ := exists_piece d s
  · rw [splitAt_of_not_mem ha]
    exact List.cons_ne_nil _ _
  · rw [splitAt_append_cons ha]
    exact List.cons_ne_nil _ _

theorem intercalate_cons (hne : lines ≠ []) :
    [d].intercalate (a :: lines) = a ++ d :: [d].intercalate lines := by
  obtain ⟨b, lines, rfl⟩ := List.exists_cons_of_ne_nil hne
  rw [List.intercalate_cons_cons, List.append_assoc]
  rfl

theorem splitAt_intercalate (hne : lines ≠ []) (h : ∀ l ∈ lines, d ∉ l) :
    splitAt d ([d].intercalate lines) = lines := by
  induction lines with
  | nil => exact absurd rfl hne
  | cons a lines ih =>
    obtain ⟨ha, hlines⟩ := List.forall_mem_cons.mp h
    by_cases hnil : lines = []
    · rw [hnil, List.intercalate_singleton, splitAt_of_not_mem ha]
    · rw [intercalate_cons hnil, splitAt_append_cons ha, ih hnil hlines]

theorem intercalate_splitAt (d : Char) (s : List Char) : [d].intercalate (splitAt d s) = s := by
  induction s using piece_induction d with
  | last a ha => rw [splitAt_of_not_mem ha, List.intercalate_singleton]
  | more a t ha ih => rw [splitAt_append_cons ha, intercalate_cons (splitAt_ne_nil d t), ih]

theorem not_mem_of_mem_splitAt (h : a ∈ splitAt d s) : d ∉ a := by
  induction s using piece_induction d with
  | last b hb =>
    rw [splitAt_of_not_mem hb, List.mem_singleton] at h
    rwa [h]
  | more b t hb ih =>
    rw [splitAt_append_cons hb, List.mem_cons] at h
    rcases h with rfl | h
    · exact hb
    · exact ih h

theorem length_splitAt (d : Char) (s : List Char) : (splitAt d s).length = s.count d + 1 := by
  induction s using piece_induction d with
  | last a ha => rw [splitAt_of_not_mem ha, List.count_eq_zero.mpr ha]; rfl
  | more a t ha ih =>
    rw [splitAt_append_cons ha, List.length_cons, ih, List.count_append,
      List.count_eq_zero.mpr ha, List.count_cons_self, Nat.zero_add]

/-- A character more goes to the last piece, unless it begins another one. -/
theorem splitAt_concat (d : Char) (s : List Char) : ∃ pieces a, d ∉ a ∧
    splitAt d s = pieces ++ [a] ∧ splitAt d (s ++ [d]) = pieces ++ [a, []] ∧
    ∀ c, c ≠ d → splitAt d (s ++ [c]) = pieces ++ [a ++ [c]] := by
  induction s using piece_induction d with
  | last a ha =>
    refine ⟨[], a, ha, splitAt_of_not_mem ha, splitAt_append_cons ha [], fun c hc => ?_⟩
    refine splitAt_of_not_mem ?_
    simp [ha, hc.symm]
  | more a t ha ih =>
    obtain ⟨pieces, b, hb, hsplit, hfeed, hother⟩ := ih
    refine ⟨a :: pieces, b, hb, ?_, ?_, fun c hc => ?_⟩
    · rw [splitAt_append_cons ha, hsplit, List.cons_append]
    · rw [List.append_assoc, List.cons_append, splitAt_append_cons ha, hfeed, List.cons_append]
    · rw [List.append_assoc, List.cons_append, splitAt_append_cons ha, hother c hc,
        List.cons_append]

def FedLines (s : List Char) : Prop := ∀ c ∈ s, isLineEnd c → c = '\n'

instance (s : List Char) : Decidable (FedLines s) :=
  List.decidableBAll (fun c => isLineEnd c → c = '\n') s

theorem FedLines.plain (h : FedLines a) (ha : '\n' ∉ a) : ∀ c ∈ a, isLineEnd c = false := by
  intro c hc
  by_contra hend
  exact ha (h c hc (by simpa using hend) ▸ hc)

theorem splitLines_of_not_mem (h : ∀ c ∈ a, isLineEnd c = false) (hne : a ≠ []) :
    splitLines a = [a] := by
  induction a with
  | nil => exact absurd rfl hne
  | cons c a ih =>
    obtain ⟨hc, ha⟩ := List.forall_mem_cons.mp h
    by_cases hnil : a = []
    · rw [hnil, splitLines, if_neg (by simp [hc])]
      rfl
    · rw [splitLines, if_neg (by simp [hc]), ih ha hnil]

theorem splitLines_append_cons (h : ∀ c ∈ a, isLineEnd c = false) (hd : isLineEnd d)
    (s : List Char) : splitLines (a ++ d :: s) = a :: splitLines s := by
  induction a with
  | nil => rw [List.nil_append, splitLines, if_pos hd]
  | cons c a ih =>
    obtain ⟨hc, ha⟩ := List.forall_mem_cons.mp h
    rw [List.cons_append, splitLines, if_neg (by simp [hc]), ih ha]

theorem isLineEnd_eq_false_of_mem_splitLines (h : a ∈ splitLines s) :
    ∀ c ∈ a, isLineEnd c = false := by
  induction s generalizing a with
  | nil => cases h
  | cons c s ih =>
    rw [splitLines] at h
    split at h
    · rcases List.mem_cons.mp h with rfl | h
      · exact List.forall_mem_nil _
      · exact ih h
    · rename_i hc
      split at h
      · simpa [List.mem_singleton.mp h] using hc
      · rename_i line lines hs
        rcases List.mem_cons.mp h with rfl | h
        · have hline : ∀ c ∈ line, isLineEnd c = false := ih (hs ▸ List.mem_cons_self)
          exact List.forall_mem_cons.mpr ⟨by simpa using hc, hline⟩
        · exact ih (hs ▸ List.mem_cons_of_mem line h)

/-- Where lines end in line feeds, both ways agree, but for what ends the text. -/
theorem splitLines_concat (h : FedLines s) (c : Char) : splitLines (s ++ [c]) =
    if isLineEnd c then splitAt '\n' s else splitAt '\n' (s ++ [c]) := by
  induction s using piece_induction '\n' with
  | last a ha =>
    have hplain := h.plain ha
    split
    · rename_i hc
      rw [splitLines_append_cons hplain hc, splitAt_of_not_mem ha]
      rfl
    · rename_i hc
      have hfeed : c ≠ '\n' := by
        rintro rfl
        exact hc rfl
      rw [splitAt_of_not_mem (by simp [ha, hfeed.symm]), splitLines_of_not_mem ?_ (by simp)]
      intro x hx
      rcases List.mem_append.mp hx with hx | hx
      · exact hplain x hx
      · rw [List.mem_singleton.mp hx]
        simpa using hc
  | more a t ha ih =>
    have hplain : ∀ x ∈ a, isLineEnd x = false :=
      FedLines.plain (fun x hx => h x (List.mem_append_left _ hx)) ha
    have ht : FedLines t := fun x hx => h x (by simp [hx])
    rw [List.append_assoc, List.cons_append, splitLines_append_cons hplain rfl,
      splitAt_append_cons ha, splitAt_append_cons ha, ih ht]
    split <;> rfl

theorem length_splitLines_concat (s : List Char) (c : Char) :
    (splitLines (s ++ [c])).length = s.countP isLineEnd + 1 := by
  induction s with
  | nil =>
    rw [List.nil_append, splitLines]
    split <;> rfl
  | cons x s ih =>
    rw [List.cons_append, splitLines, List.countP_cons]
    split
    · rw [List.length_cons, ih]
    · split
      · rename_i hnil
        rw [hnil] at ih
        cases ih
      · rename_i hlines
        rw [hlines] at ih
        exact ih

end Railroad
