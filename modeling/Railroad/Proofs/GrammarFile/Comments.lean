import Mathlib.Data.List.Forall2
import Railroad.GrammarFile
import Railroad.Proofs.Text.Place

namespace Railroad

variable {c : Char} {a s t u line : List Char} {k p : Nat}

def withoutComment (line : List Char) : List Char := if isComment line then [] else line

/-- The line is kept as it is, or it is a comment and blanked. -/
def KeptLine (line line' : List Char) : Prop := line' = line ∨ line' = [] ∧ isComment line

def endedLines (t : List Char) : List (List Char) :=
  if t.getLast? = some '\n' then (splitAt '\n' t).dropLast else splitAt '\n' t

/-- The lines of the text `t` are those of `s` in the same places, but for comments. -/
def KeepsLines (t s : List Char) : Prop :=
  List.Forall₂ KeptLine (endedLines t) (splitAt '\n' s)

theorem keptLine_withoutComment (line : List Char) : KeptLine line (withoutComment line) := by
  unfold withoutComment
  split
  · rename_i h
    exact .inr ⟨rfl, h⟩
  · exact .inl rfl

theorem keptLine_map (lines : List (List Char)) :
    List.Forall₂ KeptLine lines (lines.map withoutComment) := by
  rw [List.forall₂_map_right_iff, List.forall₂_same]
  exact fun line _ => keptLine_withoutComment line

theorem forall₂_concat {r : List Char → List Char → Prop} {b : List Char}
    {lines lines' : List (List Char)} :
    List.Forall₂ r (lines ++ [a]) (lines' ++ [b]) ↔ List.Forall₂ r lines lines' ∧ r a b := by
  rw [← List.forall₂_reverse_iff, List.reverse_concat, List.reverse_concat, List.forall₂_cons,
    List.forall₂_reverse_iff, and_comm]

theorem isSpace_of_isLineEnd (h : isLineEnd c) : isSpace c := by
  simp only [isLineEnd, isSpace, isWhite, Bool.or_eq_true, Bool.and_eq_true,
    decide_eq_true_eq] at h ⊢
  omega

theorem isComment_concat (hc : isSpace c) (h : isComment (a ++ [c])) : isComment a := by
  simp only [isComment, List.dropWhile_append, decide_eq_true_eq] at h ⊢
  split at h
  · rw [List.dropWhile_cons_of_pos hc] at h
    cases h
  · rename_i hne
    rwa [List.head?_append_of_ne_nil _ (by simpa using hne)] at h

theorem withoutComment_ne_concat (a : List Char) (c : Char) : withoutComment a ≠ a ++ [c] := by
  unfold withoutComment
  split
  · exact List.append_ne_nil_of_right_ne_nil a (List.cons_ne_nil c []) |>.symm
  · simp

theorem endedLines_concat (h : c ≠ '\n') : endedLines (u ++ [c]) = splitAt '\n' (u ++ [c]) := by
  simp [endedLines, h]

theorem endedLines_feed (u : List Char) : endedLines (u ++ ['\n']) = splitAt '\n' u := by
  obtain ⟨pieces, a, -, hu, hfeed, -⟩ := splitAt_concat '\n' u
  simp [endedLines, hu, hfeed]

theorem length_endedLines_concat (u : List Char) (c : Char) :
    (endedLines (u ++ [c])).length = u.count '\n' + 1 := by
  by_cases hc : c = '\n'
  · rw [hc, endedLines_feed, length_splitAt]
  · rw [endedLines_concat hc, length_splitAt, List.count_append, List.count_singleton]
    simp [hc]

theorem getElem?_endedLines (h : (endedLines t)[k]? = some line) :
    (splitAt '\n' t)[k]? = some line := by
  unfold endedLines at h
  split at h
  · rw [List.dropLast_eq_take, List.getElem?_take] at h
    split at h
    · exact h
    · cases h
  · exact h

theorem splitAt_stripComments (u : List Char) (c : Char) :
    splitAt '\n' (stripComments (u ++ [c])) =
      (splitLines (u ++ [c])).map withoutComment := by
  refine splitAt_intercalate ?_ ?_
  · intro hnil
    have hlen := length_splitLines_concat u c
    rw [List.map_eq_nil_iff.mp hnil] at hlen
    cases hlen
  · intro l hl hfeed
    obtain ⟨line, hline, rfl⟩ := List.mem_map.mp hl
    split at hfeed
    · cases hfeed
    · cases isLineEnd_eq_false_of_mem_splitLines hline _ hfeed

theorem fedLines_of_count (h : s.countP isLineEnd = s.count '\n') : FedLines s := by
  induction s with
  | nil => exact List.forall_mem_nil _
  | cons c s ih =>
    have hle : s.count '\n' ≤ s.countP isLineEnd := by
      refine List.countP_mono_left fun x _ hx => ?_
      rw [beq_iff_eq.mp hx]
      rfl
    rw [List.countP_cons, List.count_cons] at h
    by_cases hc : c = '\n'
    · subst hc
      refine List.forall_mem_cons.mpr ⟨fun _ => rfl, ih ?_⟩
      have hfeed : isLineEnd '\n' := rfl
      rw [if_pos hfeed, if_pos BEq.rfl] at h
      omega
    · have hend : ¬isLineEnd c := by
        intro hend
        rw [if_pos hend, if_neg (by simpa using hc)] at h
        omega
      refine List.forall_mem_cons.mpr ⟨fun hend' => absurd hend' hend, ih ?_⟩
      rwa [if_neg hend, if_neg (by simpa using hc)] at h

theorem keepsLines_stripComments_iff (t : List Char) : KeepsLines t (stripComments t) ↔
    FedLines t.dropLast ∧ ∀ c, t.getLast? = some c → isLineEnd c → c = '\n' ∨
      ∃ line, (splitAt '\n' t).getLast? = some line ∧ isComment line := by
  rcases List.eq_nil_or_concat' t with rfl | ⟨u, c, rfl⟩
  · refine iff_of_true (keptLine_map [[]]) ⟨List.forall_mem_nil _, fun c hc => ?_⟩
    cases hc
  obtain ⟨pieces, a, -, hu, -, hother⟩ := splitAt_concat '\n' u
  rw [List.dropLast_concat, List.getLast?_concat, KeepsLines, splitAt_stripComments]
  constructor
  · intro h
    have hlen := h.length_eq
    rw [length_endedLines_concat, List.length_map, length_splitLines_concat] at hlen
    have hfed : FedLines u := fedLines_of_count (by omega)
    refine ⟨hfed, fun x hx hend => ?_⟩
    cases hx
    by_cases hc : c = '\n'
    · exact .inl hc
    · right
      rw [endedLines_concat hc, hother c hc, splitLines_concat hfed, if_pos hend, hu] at h
      rw [List.map_append, List.map_singleton, forall₂_concat] at h
      refine ⟨a ++ [c], by rw [hother c hc, List.getLast?_concat], ?_⟩
      rcases h.2 with hsame | ⟨-, hcomment⟩
      · exact absurd hsame (withoutComment_ne_concat a c)
      · exact hcomment
  · rintro ⟨hfed, hlast⟩
    rw [splitLines_concat hfed]
    split
    · rename_i hend
      by_cases hc : c = '\n'
      · rw [hc, endedLines_feed]
        exact keptLine_map _
      · rcases hlast c rfl hend with hfeed | ⟨line, hline, hcomment⟩
        · exact absurd hfeed hc
        · rw [hother c hc, List.getLast?_concat] at hline
          cases hline
          have ha := isComment_concat (isSpace_of_isLineEnd hend) hcomment
          rw [endedLines_concat hc, hother c hc, hu, List.map_append, List.map_singleton,
            forall₂_concat, withoutComment, if_pos ha]
          exact ⟨keptLine_map pieces, .inr ⟨rfl, hcomment⟩⟩
    · rename_i hend
      rw [endedLines_concat (by rintro rfl; exact hend rfl)]
      exact keptLine_map _

theorem kept_place (h : KeepsLines t s) (hc : s[p]? = some c) (hfeed : c ≠ '\n') :
    ∃ q : Nat, t[q]? = some c ∧ place t q = place s p := by
  obtain ⟨k, j, line, hline, hj, rfl⟩ := exists_line hc hfeed
  obtain ⟨hk, rfl⟩ := List.getElem?_eq_some_iff.mp hline
  obtain ⟨-, hkept⟩ := List.forall₂_iff_get.mp h
  have hk' : k < (endedLines t).length := h.length_eq ▸ hk
  have hsame : (splitAt '\n' t)[k]? = some (splitAt '\n' s)[k] := by
    rcases hkept k hk' hk with hsame | ⟨hnil, -⟩
    · refine getElem?_endedLines (List.getElem?_eq_some_iff.mpr ⟨hk', hsame.symm⟩)
    · rw [List.get_eq_getElem] at hnil
      rw [hnil] at hj
      cases hj
  obtain ⟨hq, hplace⟩ := place_line hsame hj
  exact ⟨_, hq, hplace.trans (place_line hline hj).2.symm⟩

/-- A grammar is read from every file that holds text.  It has the lines of the file just when no
other character than a line feed ends a line there, but perhaps at the end of a last comment; then
its characters have the places that they have in the file. -/
theorem grammarOf?_keepsLines_iff {content : ByteArray} (h : decodeText? content = some t) :
    ∃ s, grammarOf? content = some s ∧
      (KeepsLines t s ↔ FedLines t.dropLast ∧ ∀ c, t.getLast? = some c → isLineEnd c →
        c = '\n' ∨ ∃ line, (splitAt '\n' t).getLast? = some line ∧ isComment line) ∧
      (KeepsLines t s → ∀ (p : Nat) c, s[p]? = some c → c ≠ '\n' →
        ∃ q : Nat, t[q]? = some c ∧ place t q = place s p) := by
  refine ⟨stripComments t, by rw [grammarOf?, h]; rfl, keepsLines_stripComments_iff t, ?_⟩
  exact fun hkeeps p c hc hfeed => kept_place hkeeps hc hfeed

theorem grammarOf?_keepsLines_comment : ∃ s,
    grammarOf? "# c\nA = B;\n".toUTF8 = some s ∧ KeepsLines "# c\nA = B;\n".toList s := by
  have hdecode : decodeText? "# c\nA = B;\n".toUTF8 = some "# c\nA = B;\n".toList := rfl
  obtain ⟨s, hs, hkeeps, -⟩ := grammarOf?_keepsLines_iff hdecode
  refine ⟨s, hs, hkeeps.mpr ⟨?_, fun c hc _ => ?_⟩⟩
  · decide
  · cases hc
    exact .inl rfl

/-- A form feed ends a line of the grammar, though not of the file. -/
theorem grammarOf?_form_feed : ∃ t s, decodeText? "A = B;\x0c\nC = ;".toUTF8 = some t ∧
    grammarOf? "A = B;\x0c\nC = ;".toUTF8 = some s ∧ ¬KeepsLines t s ∧
    t[8]? = some 'C' ∧ s[8]? = some 'C' ∧ place t 8 = ⟨2, 1⟩ ∧ place s 8 = ⟨3, 1⟩ := by
  refine ⟨"A = B;\x0c\nC = ;".toList, "A = B;\n\nC = ;".toList, rfl, rfl, fun h => ?_, ?_⟩
  · cases h.length_eq
  · decide

end Railroad
