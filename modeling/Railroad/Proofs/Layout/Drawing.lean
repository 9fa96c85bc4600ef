import Railroad.Measure
import Railroad.Proofs.Layout.Exact

namespace Railroad

structure Spacing.Nonneg (c : Spacing ℚ) : Prop where
  railMargin : 0 ≤ c.railMargin
  emptyHeight : 0 ≤ c.emptyHeight
  emptyPadding : 0 ≤ c.emptyPadding
  gap : 0 ≤ c.gap
  branchMargin : 0 ≤ c.branchMargin
  stubLength : 0 ≤ c.stubLength

structure Size.Nonneg (size : Size ℚ) : Prop where
  width : 0 ≤ size.width
  height : 0 ≤ size.height

theorem Spacing.standard_nonneg : (standard : Spacing ℚ).Nonneg := by
  constructor <;> exact Nat.cast_nonneg _

theorem CellMetrics.measure_nonneg {m : CellMetrics ℚ} {style : BoxStyle}
    (hcell : 0 ≤ m.cellWidth style) (hline : 0 ≤ m.lineHeight) (hx : 0 ≤ m.paddingX)
    (hy : 0 ≤ m.paddingY) (text : String) : (m.measure text style).Nonneg := by
  constructor <;> unfold measure
  · have htext : (0 : ℚ) ≤ cells text * m.cellWidth style :=
      mul_nonneg (Nat.cast_nonneg _) hcell
    exact add_nonneg htext (Scalar.twice_nonneg hx)
  · exact add_nonneg hline (Scalar.twice_nonneg hy)

theorem CellMetrics.measure_standard_nonneg (text : String) (style : BoxStyle) :
    ((standard : CellMetrics ℚ).measure text style).Nonneg := by
  have hnat (n : Nat) : (0 : ℚ) ≤ Scalar.ofNat n := Nat.cast_nonneg n
  have hcell : (0 : ℚ) ≤ (standard : CellMetrics ℚ).cellWidth style := by
    cases style <;> exact hnat 8
  exact measure_nonneg hcell (hnat 16) (hnat 8) (hnat 4) text

/-- The drawings that labels, sequences and stacks of drawings build up. -/
inductive Drawn (c : Spacing ℚ) : Geometry ℚ → Prop where
  | label {text : String} {style : BoxStyle} {size : Size ℚ} {g : Geometry ℚ}
      (h : c.box text style size = .ok g) : Drawn c g
  | empty {g : Geometry ℚ} (h : c.empty = .ok g) : Drawn c g
  | sequence {gs : List (Geometry ℚ)} {g : Geometry ℚ} (hgs : ∀ g ∈ gs, Drawn c g)
      (h : Spacing.sequence gs = .ok g) : Drawn c g
  | stack {loop : Bool} {first second : Geometry ℚ} {others : List (Geometry ℚ)} {g : Geometry ℚ}
      (hgs : ∀ g ∈ first :: second :: others, Drawn c g)
      (h : c.pile loop first second others = .ok g) : Drawn c g

namespace Spacing

open Scalar

section

variable {α : Type} [Scalar α] {c : Spacing α} {g : Geometry α}

theorem box_eq_ok {text : String} {style : BoxStyle} {size : Size α}
    (h : c.box text style size = .ok g) : ∃ f : Frame α, f.kind = style.kind ∧
      f.width = size.width + twice c.railMargin ∧ f.height = size.height ∧
      f.baseline = half size.height ∧
      g = .node f (some text) (some ⟨⟨c.railMargin, 0⟩, size⟩) [through f] [] :=
  Frame.make_bind_eq_ok h

theorem empty_eq_ok (h : c.empty = .ok g) : ∃ f : Frame α, f.kind = .empty ∧
    f.width = twice c.emptyPadding ∧ f.height = c.emptyHeight + twice c.emptyPadding ∧
    f.baseline = half (c.emptyHeight + twice c.emptyPadding) ∧
    g = .node f none none [through f] [] :=
  Frame.make_bind_eq_ok h

theorem sequence_eq_ok {gs : List (Geometry α)} (h : sequence gs = .ok g) :
    ∃ f : Frame α, f.kind = .sequence ∧ f.width = gs.foldl (fun x g => x + g.width) 0 ∧
      f.height =
        gs.foldl (fun h g => Scalar.max h (g.height + (commonBaseline gs - g.baseline))) 0 ∧
      f.baseline = commonBaseline gs ∧
      g = .node f none none [] (across (commonBaseline gs) 0 gs) :=
  Frame.make_bind_eq_ok h

theorem pile_eq_ok {loop : Bool} {first second : Geometry α} {others : List (Geometry α)}
    (h : c.pile loop first second others = .ok g) :
    ∃ (f : Frame α) (top : Placed α (Geometry α)) (lower : List (Placed α (Geometry α))),
      f.kind = (if loop then .loop else .choice) ∧
      f.width = greatest first.width ((second :: others).map Geometry.width) +
        twice c.branchMargin ∧
      f.height =
        (first :: second :: others).foldl (fun y g => y + (g.height + c.gap)) 0 - c.gap ∧
      f.baseline = first.baseline ∧
      top :: lower = down f.width c.gap 0 (first :: second :: others) ∧
      g = .node f none none (c.joints f.width loop (railHeight top) (lower.map railHeight))
        (top :: lower) := by
  obtain ⟨f, hkind, hw, hh, hb, rfl⟩ := Frame.make_bind_eq_ok h
  refine ⟨f, _, _, hkind, hw, hh, hb, rfl, ?_⟩
  rw [hw]
  rfl

end

variable {c : Spacing ℚ}

theorem exists_box (hc : c.Nonneg) {size : Size ℚ} (hsize : size.Nonneg) (text : String)
    (style : BoxStyle) : ∃ g, c.box text style size = .ok g := by
  have hw : 0 ≤ size.width + twice c.railMargin :=
    add_nonneg hsize.width (twice_nonneg hc.railMargin)
  exact Frame.exists_make_bind hw (half_nonneg hsize.height) (half_le hsize.height)

theorem exists_empty (hc : c.Nonneg) : ∃ g, c.empty = .ok g := by
  have hw : 0 ≤ twice c.emptyPadding := twice_nonneg hc.emptyPadding
  have hh : 0 ≤ c.emptyHeight + twice c.emptyPadding := add_nonneg hc.emptyHeight hw
  exact Frame.exists_make_bind hw (half_nonneg hh) (half_le hh)

theorem baseline_le_common {g : Geometry ℚ} {gs : List (Geometry ℚ)} (h : g ∈ gs) :
    g.baseline ≤ commonBaseline gs := by
  cases gs with
  | nil => cases h
  | cons g' gs => exact le_greatest_map h

theorem exists_sequence (gs : List (Geometry ℚ)) : ∃ g, sequence gs = .ok g := by
  have hw := le_foldl_add Geometry.width_nonneg 0 gs
  cases gs with
  | nil => exact Frame.exists_make_bind hw (le_refl 0) (le_refl 0)
  | cons g gs =>
    have hg := baseline_le_common (List.mem_cons_self : g ∈ g :: gs)
    have hg0 := g.baseline_nonneg
    have hgh := g.baseline_le_height
    have hb : 0 ≤ commonBaseline (g :: gs) := by linarith
    have hh : commonBaseline (g :: gs) ≤ (g :: gs).foldl (fun h g' =>
        Scalar.max h (g'.height + (commonBaseline (g :: gs) - g'.baseline))) 0 := by
      refine le_trans ?_ (le_foldl_max_of_mem List.mem_cons_self)
      linarith
    exact Frame.exists_make_bind hw hb hh

theorem exists_pile (hc : c.Nonneg) (loop : Bool) (first second : Geometry ℚ)
    (others : List (Geometry ℚ)) : ∃ g, c.pile loop first second others = .ok g := by
  have hstep : ∀ g : Geometry ℚ, 0 ≤ g.height + c.gap :=
    fun g => add_nonneg g.height_nonneg hc.gap
  have hwidest : first.width ≤ greatest first.width ((second :: others).map Geometry.width) :=
    le_greatest_map List.mem_cons_self
  have hw : 0 ≤ greatest first.width ((second :: others).map Geometry.width) +
      twice c.branchMargin :=
    add_nonneg (first.width_nonneg.trans hwidest) (twice_nonneg hc.branchMargin)
  have hh : first.baseline ≤
      (first :: second :: others).foldl (fun y g => y + (g.height + c.gap)) 0 - c.gap := by
    have hrest := le_foldl_add hstep (0 + (first.height + c.gap)) (second :: others)
    rw [List.foldl_cons]
    linarith [first.baseline_le_height]
  exact Frame.exists_make_bind hw first.baseline_nonneg hh

end Spacing

variable {c : Spacing ℚ} {measure : Measurer Id ℚ}

theorem LayoutFault.run_lift {ι α β : Type} {r : Except (StructureCause α) β} {b : β}
    (h : r = .ok b) : (LayoutFault.lift r : ExceptT (LayoutFault ι α) Id β).run = .ok b := by
  rw [h]
  rfl

theorem LayoutFault.eq_ok_of_run_lift {ι α β : Type} {r : Except (StructureCause α) β} {b : β}
    (h : (LayoutFault.lift r : ExceptT (LayoutFault ι α) Id β).run = .ok b) : r = .ok b := by
  cases r with
  | ok a => exact congrArg _ (Except.ok.inj h)
  | error cause => cases h

/-- A step of a layout that goes well is followed by the next. -/
theorem run_bind_ok {ε β γ : Type} {step : ExceptT ε Id β} {next : β → ExceptT ε Id γ} {b : β}
    (h : step.run = .ok b) : (step >>= next).run = (next b).run := by
  change ExceptT.bindCont next step.run = (next b).run
  rw [h]
  rfl

mutual

theorem exists_layout (hc : c.Nonneg) (hm : ∀ text style, (measure text style).Nonneg) :
    ∀ t : Rule, ∃ g, (t.layout measure c).run = .ok g ∧ Drawn c g
  | .terminal text style => by
    obtain ⟨g, hg⟩ := Spacing.exists_box hc (hm text style.boxStyle) text style.boxStyle
    refine ⟨g, ?_, .label hg⟩
    rw [Tree.layout]
    exact LayoutFault.run_lift hg
  | .nonterminal name => by
    obtain ⟨g, hg⟩ := Spacing.exists_box hc (hm name .nonterminal) name .nonterminal
    refine ⟨g, ?_, .label hg⟩
    rw [Tree.layout]
    exact LayoutFault.run_lift hg
  | .empty => by
    obtain ⟨g, hg⟩ := Spacing.exists_empty hc
    refine ⟨g, ?_, .empty hg⟩
    rw [Tree.layout]
    exact LayoutFault.run_lift hg
  | .sequence children => by
    obtain ⟨gs, hrun, hgs⟩ := exists_layoutAll hc hm children
    obtain ⟨g, hg⟩ := Spacing.exists_sequence gs
    refine ⟨g, ?_, .sequence hgs hg⟩
    rw [Tree.layout, run_bind_ok hrun]
    exact LayoutFault.run_lift hg
  | .choice first second others => by
    obtain ⟨g₁, hrun₁, hg₁⟩ := exists_layout hc hm first
    obtain ⟨g₂, hrun₂, hg₂⟩ := exists_layout hc hm second
    obtain ⟨gs, hrun, hgs⟩ := exists_layoutAll hc hm others
    obtain ⟨g, hg⟩ := Spacing.exists_pile hc false g₁ g₂ gs
    have hall : ∀ g ∈ g₁ :: g₂ :: gs, Drawn c g :=
      List.forall_mem_cons.mpr ⟨hg₁, List.forall_mem_cons.mpr ⟨hg₂, hgs⟩⟩
    refine ⟨g, ?_, .stack hall hg⟩
    rw [Tree.layout, run_bind_ok hrun₁, run_bind_ok hrun₂, run_bind_ok hrun]
    exact LayoutFault.run_lift hg
  | .loop body back => by
    obtain ⟨g₁, hrun₁, hg₁⟩ := exists_layout hc hm body
    obtain ⟨g₂, hrun₂, hg₂⟩ := exists_layout hc hm back
    obtain ⟨g, hg⟩ := Spacing.exists_pile hc true g₁ g₂ []
    have hgs : ∀ g ∈ [g₁, g₂], Drawn c g := by simp [hg₁, hg₂]
    refine ⟨g, ?_, .stack hgs hg⟩
    rw [Tree.layout, run_bind_ok hrun₁, run_bind_ok hrun₂]
    exact LayoutFault.run_lift hg
  | .foreign value => nomatch value

theorem exists_layoutAll (hc : c.Nonneg) (hm : ∀ text style, (measure text style).Nonneg) :
    ∀ ts : List Rule, ∃ gs, (Tree.layoutAll measure c ts).run = .ok gs ∧ ∀ g ∈ gs, Drawn c g
  | [] => by
    refine ⟨[], ?_, List.forall_mem_nil _⟩
    rw [Tree.layoutAll]
    rfl
  | t :: ts => by
    obtain ⟨g, hrun, hg⟩ := exists_layout hc hm t
    obtain ⟨gs, hruns, hgs⟩ := exists_layoutAll hc hm ts
    refine ⟨g :: gs, ?_, List.forall_mem_cons.mpr ⟨hg, hgs⟩⟩
    rw [Tree.layoutAll, run_bind_ok hrun, run_bind_ok hruns]
    rfl

end

theorem draw_eq_ok {r : Rule} {g : Geometry ℚ} :
    r.draw measure c = .ok g ↔ (Tree.layout measure c r).run = .ok g := by
  unfold Rule.draw
  constructor
  · intro h
    split at h
    · rename_i hrun
      cases h
      exact hrun
    · cases h
    · rename_i v _
      exact nomatch v
  · intro h
    rw [h]

theorem exists_draw (hc : c.Nonneg) (hm : ∀ text style, (measure text style).Nonneg) (r : Rule) :
    ∃ g, r.draw measure c = .ok g ∧ Drawn c g := by
  obtain ⟨g, hrun, hg⟩ := exists_layout hc hm r
  exact ⟨g, draw_eq_ok.mpr hrun, hg⟩

section

-- every rule has a drawing; the lemmas say how those of trees and their parts are related
variable {d : Rule → Geometry ℚ} (hd : ∀ r : Rule, r.draw measure c = .ok (d r))

include hd

theorem terminal_drawn (text : String) (style : TerminalStyle) :
    c.box text style.boxStyle (measure text style.boxStyle) = .ok (d (.terminal text style)) := by
  have hrun := draw_eq_ok.mp (hd (.terminal text style))
  rw [Tree.layout] at hrun
  exact LayoutFault.eq_ok_of_run_lift hrun

theorem nonterminal_drawn (name : String) :
    c.box name .nonterminal (measure name .nonterminal) = .ok (d (.nonterminal name)) := by
  have hrun := draw_eq_ok.mp (hd (.nonterminal name))
  rw [Tree.layout] at hrun
  exact LayoutFault.eq_ok_of_run_lift hrun

theorem empty_drawn : c.empty = .ok (d .empty) := by
  have hrun := draw_eq_ok.mp (hd .empty)
  rw [Tree.layout] at hrun
  exact LayoutFault.eq_ok_of_run_lift hrun

theorem layoutAll_drawn (rs : List Rule) :
    (Tree.layoutAll measure c rs).run = .ok (rs.map d) := by
  induction rs with
  | nil =>
    rw [Tree.layoutAll]
    rfl
  | cons r rs ih =>
    rw [Tree.layoutAll, run_bind_ok (draw_eq_ok.mp (hd r)), run_bind_ok ih]
    rfl

theorem sequence_drawn (rs : List Rule) :
    Spacing.sequence (rs.map d) = .ok (d (.sequence rs)) := by
  have hrun := draw_eq_ok.mp (hd (.sequence rs))
  rw [Tree.layout, run_bind_ok (layoutAll_drawn hd rs)] at hrun
  exact LayoutFault.eq_ok_of_run_lift hrun

theorem choice_drawn (first second : Rule) (others : List Rule) :
    c.pile false (d first) (d second) (others.map d) = .ok (d (.choice first second others)) := by
  have hrun := draw_eq_ok.mp (hd (.choice first second others))
  rw [Tree.layout, run_bind_ok (draw_eq_ok.mp (hd first)), run_bind_ok (draw_eq_ok.mp (hd second)),
    run_bind_ok (layoutAll_drawn hd others)] at hrun
  exact LayoutFault.eq_ok_of_run_lift hrun

theorem loop_drawn (body back : Rule) :
    c.pile true (d body) (d back) [] = .ok (d (.loop body back)) := by
  have hrun := draw_eq_ok.mp (hd (.loop body back))
  rw [Tree.layout, run_bind_ok (draw_eq_ok.mp (hd body)), run_bind_ok (draw_eq_ok.mp (hd back))]
    at hrun
  exact LayoutFault.eq_ok_of_run_lift hrun

end

end Railroad
