import Mathlib.Logic.Relation
import Railroad.Proofs.Layout.Figures

namespace Railroad

/-- Somewhere in the tree one sequence inside another is replaced by its parts. -/
inductive Tree.Flattens {ι : Type} : Tree ι → Tree ι → Prop where
  | splice (before inner after : List (Tree ι)) :
      Flattens (.sequence (before ++ .sequence inner :: after))
        (.sequence (before ++ (inner ++ after)))
  | sequence {t t' : Tree ι} (before after : List (Tree ι)) (h : Flattens t t') :
      Flattens (.sequence (before ++ t :: after)) (.sequence (before ++ t' :: after))
  | first {t t' : Tree ι} (second : Tree ι) (others : List (Tree ι)) (h : Flattens t t') :
      Flattens (.choice t second others) (.choice t' second others)
  | second {t t' : Tree ι} (first : Tree ι) (others : List (Tree ι)) (h : Flattens t t') :
      Flattens (.choice first t others) (.choice first t' others)
  | other {t t' : Tree ι} (first second : Tree ι) (before after : List (Tree ι))
      (h : Flattens t t') :
      Flattens (.choice first second (before ++ t :: after))
        (.choice first second (before ++ t' :: after))
  | body {t t' : Tree ι} (back : Tree ι) (h : Flattens t t') :
      Flattens (.loop t back) (.loop t' back)
  | back {t t' : Tree ι} (body : Tree ι) (h : Flattens t t') :
      Flattens (.loop body t) (.loop body t')

variable {c : Spacing ℚ} {measure : Measurer Id ℚ}

section

variable {d : Rule → Geometry ℚ} (hd : ∀ r : Rule, r.draw measure c = .ok (d r))

include hd

theorem Tree.Flattens.alike (hc : c.Nonneg) {r r' : Rule} (h : Tree.Flattens r r') :
    (d r).Alike (d r') := by
  have hrefl (rs : List Rule) : List.Forall₂ Geometry.Alike (rs.map d) (rs.map d) :=
    List.forall₂_same.mpr fun g _ => .refl g
  induction h with
  | splice before inner after =>
    refine Geometry.RowAlike.sequence ?_ (sequence_drawn hd _) (sequence_drawn hd _)
    simp only [List.map_append, List.map_cons]
    exact .append (.refl _) (.append (.of_sequence (sequence_drawn hd inner)) (.refl _))
  | sequence before after _ ih =>
    refine Geometry.RowAlike.sequence ?_ (sequence_drawn hd _) (sequence_drawn hd _)
    simp only [List.map_append, List.map_cons]
    exact .append (.refl _) (.append (.singleton ih) (.refl _))
  | first second others _ ih =>
    exact .pile hc (.cons ih (.cons (.refl _) (hrefl others))) (choice_drawn hd ..)
      (choice_drawn hd ..)
  | second first others _ ih =>
    exact .pile hc (.cons (.refl _) (.cons ih (hrefl others))) (choice_drawn hd ..)
      (choice_drawn hd ..)
  | other first second before after _ ih =>
    refine .pile hc (.cons (.refl _) (.cons (.refl _) ?_)) (choice_drawn hd ..)
      (choice_drawn hd ..)
    simp only [List.map_append, List.map_cons]
    exact List.rel_append (hrefl before) (.cons ih (hrefl after))
  | body back _ ih =>
    exact .pile hc (.cons ih (.cons (.refl _) .nil)) (loop_drawn hd ..) (loop_drawn hd ..)
  | back body _ ih =>
    exact .pile hc (.cons (.refl _) (.cons ih .nil)) (loop_drawn hd ..) (loop_drawn hd ..)

end

/-- Rules that differ in the grouping of their sequences only have drawings that look alike. -/
theorem draw_flattened (hc : c.Nonneg) (hm : ∀ text style, (measure text style).Nonneg)
    {r r' : Rule} (h : Relation.ReflTransGen Tree.Flattens r r') :
    ∃ g g', r.draw measure c = .ok g ∧ r'.draw measure c = .ok g' ∧ g.Alike g' := by
  choose d hd _ using fun r => exists_draw hc hm r
  refine ⟨d r, d r', hd r, hd r', ?_⟩
  induction h with
  | refl => exact .refl _
  | tail _ hstep ih => exact ih.trans (hstep.alike hd hc)

theorem draw_flattened_grouped :
    let c : Spacing ℚ := .standard
    let measure : Measurer Id ℚ := (CellMetrics.standard : CellMetrics ℚ).measure
    let grouped : Rule :=
      .optional (.sequence [.sequence [.nonterminal "a", .sequence []], .nonterminal "b"])
    let flat : Rule := .optional (.sequence [.nonterminal "a", .nonterminal "b"])
    c.Nonneg ∧ (∀ text style, (measure text style).Nonneg) ∧
      Relation.ReflTransGen Tree.Flattens grouped flat ∧
      ∃ g g', grouped.draw measure c = .ok g ∧ flat.draw measure c = .ok g' ∧ g.Alike g' := by
  intro c measure grouped flat
  have hinner : Tree.Flattens grouped
      (.optional (.sequence [.sequence [.nonterminal "a"], .nonterminal "b"])) :=
    .first _ _ (.sequence [] _ (.splice [.nonterminal "a"] [] []))
  have houter : Tree.Flattens
      (.optional (.sequence [.sequence [.nonterminal "a"], .nonterminal "b"])) flat :=
    .first _ _ (.splice [] [.nonterminal "a"] [.nonterminal "b"])
  have hsteps := (Relation.ReflTransGen.single hinner).tail houter
  exact ⟨Spacing.standard_nonneg, CellMetrics.measure_standard_nonneg, hsteps,
    draw_flattened Spacing.standard_nonneg CellMetrics.measure_standard_nonneg hsteps⟩

end Railroad
