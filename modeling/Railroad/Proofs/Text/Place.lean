import Mathlib.Data.List.Induction
import Railroad.Diagnostic
import Railroad.Proofs.Text.Lines

namespace Railroad

variable {a b s l : List Char} {lines : List (List Char)} {j k p : Nat}

theorem lastLine_concat (s : List Char) (c : Char) :
    lastLine (s ++ [c]) = if c = '\n' then [] else lastLine s ++ [c] := by
  rw [lastLine, List.reverse_append, List.reverse_singleton, List.singleton_append,
    List.takeWhile_cons]
  by_cases hc : c = '\n'
  · rw [if_neg (by simp [hc]), if_pos hc, List.reverse_nil]
  · rw [if_pos (by simp [hc]), if_neg hc, List.reverse_cons, lastLine]

theorem lastLine_append (a b : List Char) :
    lastLine (a ++ b) = if '\n' ∈ b then lastLine b else lastLine a ++ b := by
  induction b using List.reverseRecOn with
  | nil => rw [List.append_nil, if_neg List.not_mem_nil, List.append_nil]
  | append_singleton b c ih =>
    rw [← List.append_assoc, lastLine_concat, lastLine_concat, ih]
    by_cases hc : c = '\n'
    · rw [if_pos hc, if_pos hc, if_pos (by simp [hc])]
    · simp only [if_neg hc, List.mem_append, List.mem_singleton, Ne.symm hc, or_false]
      split
      · rfl
      · rw [List.append_assoc]

theorem lastLine_of_not_mem (h : '\n' ∉ b) : lastLine b = b := by
  have happend := lastLine_append [] b
  rwa [if_neg h] at happend

theorem place_eq (h : p ≤ s.length) :
    place s p = ⟨(s.take p).count '\n' + 1, (lastLine (s.take p)).length + 1⟩ := by
  have hle : (lastLine (s.take p)).length ≤ (s.take p).length := by
    rw [lastLine, List.length_reverse]
    exact Nat.le_trans (List.takeWhile_sublist _).length_le (Nat.le_of_eq List.length_reverse)
  rw [List.length_take_of_le h] at hle
  rw [place, textBefore, if_neg (by omega), Int.toNat_natCast, List.length_take_of_le h,
    Place.mk.injEq]
  exact ⟨rfl, by omega⟩

theorem place_append (h : p ≤ s.length) (x : List Char) : place (s ++ x) p = place s p := by
  have hle : p ≤ (s ++ x).length := by
    rw [List.length_append]
    exact Nat.le_add_right_of_le h
  rw [place_eq hle, place_eq h, List.take_append_of_le_length h]

/-- In a longer text the lines in front are counted, and what stands before the position in the
same line. -/
theorem place_behind (h : p ≤ s.length) (g : List Char) :
    place (g ++ s) (g.length + p : Nat) = ⟨(place s p).line + g.count '\n',
      if (place s p).line = 1 then (lastLine g).length + (place s p).column
      else (place s p).column⟩ := by
  have hle : g.length + p ≤ (g ++ s).length := by
    rw [List.length_append]
    exact Nat.add_le_add_left h _
  have hline : (s.take p).count '\n' + 1 = 1 ↔ '\n' ∉ s.take p := by
    rw [Nat.add_eq_right, List.count_eq_zero]
  rw [place_eq hle, place_eq h, List.take_length_add_append, List.count_append, lastLine_append,
    Place.mk.injEq]
  refine ⟨by dsimp only; omega, ?_⟩
  by_cases hfeed : '\n' ∈ s.take p
  · rw [if_pos hfeed, if_neg (by rwa [hline, not_not])]
  · rw [if_neg hfeed, if_pos (hline.mpr hfeed), lastLine_of_not_mem hfeed, List.length_append]
    push_cast
    exact Int.add_assoc _ _ _

/-- The number of characters before a line, with the line feeds that end the lines there. -/
def lineStart (lines : List (List Char)) (k : Nat) : Nat :=
  ((lines.take k).flatMap (· ++ ['\n'])).length

theorem lineStart_zero (lines : List (List Char)) : lineStart lines 0 = 0 := rfl

theorem lineStart_cons (a : List Char) (lines : List (List Char)) (k : Nat) :
    lineStart (a :: lines) (k + 1) = a.length + 1 + lineStart lines k := by
  simp only [lineStart, List.take_succ_cons, List.flatMap_cons, List.length_append,
    List.length_singleton]

theorem exists_behind_line (h : lines[k]? = some l) : ∃ s,
    ['\n'].intercalate lines = (lines.take k).flatMap (· ++ ['\n']) ++ (l ++ s) := by
  induction lines generalizing k with
  | nil => cases h
  | cons a lines ih =>
    by_cases hne : lines = []
    · subst hne
      cases k with
      | zero =>
        cases h
        exact ⟨[], by simp⟩
      | succ k => cases h
    · rw [intercalate_cons hne]
      cases k with
      | zero =>
        cases h
        exact ⟨'\n' :: ['\n'].intercalate lines, by simp⟩
      | succ k =>
        obtain ⟨s, hs⟩ := ih h
        exact ⟨s, by simp [hs]⟩

theorem count_ended_lines (h : ∀ l ∈ lines, '\n' ∉ l) :
    (lines.flatMap (· ++ ['\n'])).count '\n' = lines.length := by
  induction lines with
  | nil => rfl
  | cons a lines ih =>
    obtain ⟨ha, hlines⟩ := List.forall_mem_cons.mp h
    rw [List.flatMap_cons, List.count_append, ih hlines, List.count_append,
      List.count_eq_zero.mpr ha, List.count_singleton_self, List.length_cons]
    omega

theorem lastLine_ended_lines (lines : List (List Char)) :
    lastLine (lines.flatMap (· ++ ['\n'])) = [] := by
  rcases List.eq_nil_or_concat lines with rfl | ⟨lines, l, rfl⟩
  · rfl
  · rw [List.concat_eq_append, List.flatMap_append, List.flatMap_singleton, ← List.append_assoc,
      lastLine_concat, if_pos rfl]

/-- Every position is in a line or right behind it, and at a line feed only behind. -/
theorem exists_column (h : p ≤ s.length) :
    ∃ k j l, (splitAt '\n' s)[k]? = some l ∧ j ≤ l.length ∧
      p = lineStart (splitAt '\n' s) k + j ∧ ∀ c, s[p]? = some c → c ≠ '\n' → l[j]? = some c := by
  induction s using piece_induction '\n' generalizing p with
  | last a ha =>
    rw [splitAt_of_not_mem ha]
    exact ⟨0, p, a, rfl, h, (Nat.zero_add p).symm, fun c hc _ => hc⟩
  | more a t ha ih =>
    rw [splitAt_append_cons ha]
    by_cases hp : p ≤ a.length
    · refine ⟨0, p, a, rfl, hp, (Nat.zero_add p).symm, fun c hc hne => ?_⟩
      rcases Nat.lt_or_eq_of_le hp with hlt | rfl
      · rwa [List.getElem?_append_left hlt] at hc
      · rw [List.getElem?_append_right (Nat.le_refl _), Nat.sub_self,
          List.getElem?_cons_zero] at hc
        cases hc
        exact absurd rfl hne
    · obtain ⟨p, rfl⟩ := Nat.exists_eq_add_of_le (Nat.lt_of_not_le hp)
      rw [List.length_append, List.length_cons] at h
      obtain ⟨k, j, l, hline, hj, rfl, hl⟩ := ih (p := p) (by omega)
      refine ⟨k + 1, j, l, hline, hj, ?_, fun c hc => hl c ?_⟩
      · rw [lineStart_cons, Nat.add_assoc]
      · rwa [List.getElem?_append_right (by omega), Nat.succ_eq_add_one, Nat.add_assoc,
          Nat.add_sub_cancel_left, Nat.add_comm, List.getElem?_cons_succ] at hc

theorem take_lines (h : lines[k]? = some l) (hj : j ≤ l.length) :
    (['\n'].intercalate lines).take (lineStart lines k + j) =
      (lines.take k).flatMap (· ++ ['\n']) ++ l.take j := by
  obtain ⟨t, ht⟩ := exists_behind_line h
  rw [ht, lineStart, List.take_length_add_append, List.take_append_of_le_length hj]

theorem getElem?_lines (h : lines[k]? = some l) (hj : j < l.length) :
    (['\n'].intercalate lines)[lineStart lines k + j]? = l[j]? := by
  obtain ⟨t, ht⟩ := exists_behind_line h
  rw [ht, lineStart, List.getElem?_append_right (Nat.le_add_right _ _), Nat.add_sub_cancel_left,
    List.getElem?_append_left hj]

theorem lineStart_add_le (h : lines[k]? = some l) (hj : j ≤ l.length) :
    lineStart lines k + j ≤ (['\n'].intercalate lines).length := by
  obtain ⟨t, ht⟩ := exists_behind_line h
  rw [ht, List.length_append, List.length_append, lineStart]
  omega

theorem place_column (h : (splitAt '\n' s)[k]? = some l) (hj : j ≤ l.length) :
    place s (lineStart (splitAt '\n' s) k + j : Nat) = ⟨k + 1, j + 1⟩ := by
  have htake := take_lines h hj
  have hle := lineStart_add_le h hj
  rw [intercalate_splitAt] at htake hle
  have hfeed : '\n' ∉ l.take j := fun hmem =>
    not_mem_of_mem_splitAt (List.mem_of_getElem? h) (List.mem_of_mem_take hmem)
  have hlines : ∀ a ∈ (splitAt '\n' s).take k, '\n' ∉ a := fun a ha =>
    not_mem_of_mem_splitAt (List.mem_of_mem_take ha)
  obtain ⟨hk, -⟩ := List.getElem?_eq_some_iff.mp h
  rw [place_eq hle, htake, List.count_append, count_ended_lines hlines,
    List.count_eq_zero.mpr hfeed, Nat.add_zero, List.length_take_of_le (Nat.le_of_lt hk),
    lastLine_append, if_neg hfeed, lastLine_ended_lines, List.nil_append,
    List.length_take_of_le hj]

theorem place_line {c : Char} (h : (splitAt '\n' s)[k]? = some l) (hc : l[j]? = some c) :
    s[lineStart (splitAt '\n' s) k + j]? = some c ∧
      place s (lineStart (splitAt '\n' s) k + j : Nat) = ⟨k + 1, j + 1⟩ := by
  obtain ⟨hj, -⟩ := List.getElem?_eq_some_iff.mp hc
  have hget := getElem?_lines h hj
  rw [intercalate_splitAt, hc] at hget
  exact ⟨hget, place_column h (Nat.le_of_lt hj)⟩

theorem exists_line {c : Char} (h : s[p]? = some c) (hc : c ≠ '\n') :
    ∃ k j l, (splitAt '\n' s)[k]? = some l ∧ l[j]? = some c ∧
      p = lineStart (splitAt '\n' s) k + j := by
  obtain ⟨hp, -⟩ := List.getElem?_eq_some_iff.mp h
  obtain ⟨k, j, l, hline, -, hstart, hl⟩ := exists_column (Nat.le_of_lt hp)
  exact ⟨k, j, l, hline, hl c h hc, hstart⟩

end Railroad
