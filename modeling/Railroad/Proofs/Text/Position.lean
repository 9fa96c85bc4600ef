import Mathlib.Algebra.Order.Ring.Nat
import Mathlib.Data.Prod.Lex
import Railroad.Proofs.Text.Place

namespace Railroad

variable {lines : List (List Char)} {l s : List Char} {a b : Place} {j k m p q : Nat}

namespace Place

/-- The place is in one of the lines or right behind it, and the position that far behind the lines
before is `p`. -/
structure Marks (a : Place) (lines : List (List Char)) (p : Nat) : Prop where
  one_le_line : 1 ≤ a.line
  line_le : a.line ≤ lines.length
  one_le_column : 1 ≤ a.column
  column_le : ∃ l, lines[a.line - 1]? = some l ∧ a.column ≤ l.length + 1
  position : (((lines.take (a.line - 1)).map (·.length + 1)).sum : Nat) + (a.column - 1) = p

def key (a : Place) : Nat ×ₗ Int := toLex (a.line, a.column)

end Place

theorem lineStart_eq_sum (lines : List (List Char)) (k : Nat) :
    lineStart lines k = ((lines.take k).map (·.length + 1)).sum := by
  simp only [lineStart, List.length_flatMap, List.length_append, List.length_singleton]

theorem lineStart_lt (h : lines[k]? = some l) (hkm : k < m) :
    lineStart lines k + l.length < lineStart lines m := by
  induction lines generalizing k m with
  | nil => cases h
  | cons a lines ih =>
    obtain ⟨m, rfl⟩ := Nat.exists_eq_add_of_lt hkm
    cases k with
    | zero =>
      cases h
      rw [lineStart_zero, lineStart_cons]
      omega
    | succ k =>
      have hlt := ih h (m := k + m + 1) (by omega)
      rw [lineStart_cons, Nat.add_right_comm k 1 m, lineStart_cons]
      omega

namespace Place.Marks

theorem line_mono (ha : a.Marks lines p) (hb : b.Marks lines q) (h : p ≤ q) : a.line ≤ b.line := by
  by_contra hlt
  have hpos := hb.one_le_line
  obtain ⟨l, hl, hcolumn⟩ := hb.column_le
  -- the position of `b` is in its own line still, and that of `a` in a later one
  have hstart := lineStart_lt hl (m := a.line - 1) (by omega)
  have hp := ha.position
  have hq := hb.position
  have ha' := ha.one_le_column
  rw [← lineStart_eq_sum] at hp hq
  omega

theorem eq (ha : a.Marks lines p) (hb : b.Marks lines p) : a = b := by
  have hline : a.line = b.line :=
    Nat.le_antisymm (ha.line_mono hb (Nat.le_refl p)) (hb.line_mono ha (Nat.le_refl p))
  have hcolumn : a.column = b.column := by
    have hp := ha.position
    have hq := hb.position
    rw [hline] at hp
    omega
  cases a
  cases b
  rw [mk.injEq]
  exact ⟨hline, hcolumn⟩

theorem key_lt (ha : a.Marks lines p) (hb : b.Marks lines q) (h : p < q) : a.key < b.key := by
  rw [key, key, Prod.Lex.toLex_lt_toLex]
  rcases Nat.lt_or_eq_of_le (ha.line_mono hb (Nat.le_of_lt h)) with hline | hline
  · exact .inl hline
  · refine .inr ⟨hline, ?_⟩
    have hp := ha.position
    have hq := hb.position
    dsimp only
    rw [hline] at hp
    omega

theorem key_lt_iff (ha : a.Marks lines p) (hb : b.Marks lines q) : a.key < b.key ↔ p < q := by
  refine ⟨fun hkey => ?_, ha.key_lt hb⟩
  rcases Nat.lt_trichotomy p q with h | rfl | h
  · exact h
  · rw [ha.eq hb] at hkey
    exact absurd hkey (lt_irrefl _)
  · exact absurd hkey (lt_asymm (hb.key_lt ha h))

theorem position_unique (hp : a.Marks lines p) (hq : a.Marks lines q) : p = q :=
  Int.ofNat_inj.mp (hp.position.symm.trans hq.position)

end Place.Marks

theorem place_marks (h : p ≤ s.length) : (place s p).Marks (splitAt '\n' s) p := by
  obtain ⟨k, j, l, hl, hj, rfl, -⟩ := exists_column h
  obtain ⟨hk, -⟩ := List.getElem?_eq_some_iff.mp hl
  rw [place_column hl hj]
  refine {
    one_le_line := Nat.le_add_left 1 k
    line_le := hk
    one_le_column := ?_
    column_le := ⟨l, hl, ?_⟩
    position := ?_ }
  · dsimp only
    omega
  · dsimp only
    omega
  · dsimp only
    rw [Nat.add_sub_cancel, ← lineStart_eq_sum]
    omega

/-- The place of a position is the only one that marks it, so different positions have different
places, and later positions later ones.  In a longer text the lines in front are counted, and the
column stays unless the position is in the first line. -/
theorem place_identifies (h : p ≤ s.length) :
    (∀ a : Place, a.Marks (splitAt '\n' s) p ↔ a = place s p) ∧
      (∀ q ≤ s.length, place s p = place s q ↔ p = q) ∧
      (∀ q ≤ s.length, (place s p).key < (place s q).key ↔ p < q) ∧
      ∀ g : List Char,
        (place (g ++ s) (g.length + p : Nat)).line = (place s p).line + g.count '\n' ∧
          (1 < (place s p).line →
            (place (g ++ s) (g.length + p : Nat)).column = (place s p).column) := by
  have hmarks := place_marks h
  refine ⟨fun a => ⟨fun ha => ha.eq hmarks, fun ha => ha ▸ hmarks⟩, fun q hq => ?_,
    fun q hq => hmarks.key_lt_iff (place_marks hq), fun g => ?_⟩
  · refine ⟨fun heq => ?_, fun heq => heq ▸ rfl⟩
    rw [heq] at hmarks
    exact hmarks.position_unique (place_marks hq)
  · rw [place_behind h]
    exact ⟨rfl, fun hline => if_neg (Nat.ne_of_gt hline)⟩

theorem place_identifies_behind_feed :
    3 ≤ "ab\ncd".toList.length ∧ (⟨2, 1⟩ : Place).Marks (splitAt '\n' "ab\ncd".toList) 3 ∧
      place "ab\ncd".toList 3 ≠ place "ab\ncd".toList 2 ∧
      (place "ab\ncd".toList 3).key < (place "ab\ncd".toList 5).key ∧
      (place ("x\n".toList ++ "ab\ncd".toList) 5).line = 3 ∧
      (place ("x\n".toList ++ "ab\ncd".toList) 5).column = 1 := by
  have h : 3 ≤ "ab\ncd".toList.length := by decide
  obtain ⟨hmarks, hinj, hmono, hbehind⟩ := place_identifies h
  refine ⟨h, (hmarks _).mpr (by decide), ?_, (hmono 5 (by decide)).mpr (by decide), ?_⟩
  · intro heq
    have h32 := (hinj 2 (by decide)).mp heq
    cases h32
  · exact ⟨(hbehind "x\n".toList).1, (hbehind "x\n".toList).2 (by decide)⟩

end Railroad
