import Railroad.Decimal.Notation
import Railroad.Measure
import Railroad.Proofs.Assembly.Turns
import Railroad.Proofs.Recovery.Confinement
import Railroad.Proofs.Text.Place

namespace Railroad

variable {α : Type} [Scalar α] {engine : Engine α} {b g m s t w x : List Char} {o : Outcome α}
  {last : Option Char}

/-- The diagnostic as it is behind `n` more characters, in the text `source`. -/
def Diagnostic.moved (n : Nat) (source : List Char) (d : Diagnostic) : Diagnostic :=
  let position := d.fault.position.map (· + (n : Int))
  ⟨⟨d.fault.kind, d.fault.message, position⟩, position.map (Railroad.place source), d.symbol⟩

def Outcome.moved (n : Nat) (source : List Char) : Outcome α → Outcome α
  | .drawn d => .drawn d
  | .failed d => .failed (d.moved n source)

/-- Faults of drawing have no position. -/
def Engine.Placeless (engine : Engine α) : Prop :=
  ∀ rule fault, engine rule = .error fault → fault.position = none

theorem layoutEngine_placeless [Numeral α] (measure : Measurer Id α) (c : Spacing α) :
    (layoutEngine measure c).Placeless := by
  intro rule fault h
  unfold layoutEngine at h
  cases hd : rule.draw measure c with
  | ok g =>
    rw [hd] at h
    cases h
  | error cause =>
    rw [hd] at h
    cases h
    rfl

theorem Fault.diagnose_placeless {fault : Fault} (h : fault.position = none) (source : List Char)
    (symbol : Option String) : fault.diagnose source symbol = ⟨fault, none, symbol⟩ := by
  rw [diagnose, h]
  rfl

theorem Fault.diagnose_moved (fault : Fault) (n : Nat) (source source' : List Char)
    (symbol : Option String) : (fault.diagnose source symbol).moved n source' =
      Fault.diagnose ⟨fault.kind, fault.message, fault.position.map (· + (n : Int))⟩ source'
        symbol := rfl

theorem Failure.diagnose_append (cause : SyntaxCause) (hm : m <:+ b) (x : List Char)
    (symbol : Option String) :
    ((Failure.at cause (m ++ x)).fault (b ++ x).length).diagnose (b ++ x) symbol =
      ((Failure.at cause m).fault b.length).diagnose b symbol := by
  have hle := hm.length_le
  have hposition : ∀ s : List Char,
      offset (b ++ s).length (m ++ s).length = (b.length - m.length : Nat) := by
    intro s
    simp only [offset, List.length_append]
    omega
  have hnil := hposition []
  rw [List.append_nil, List.append_nil] at hnil
  simp only [Fault.diagnose, fault, Failure.at, hposition, hnil, Option.map_some,
    place_append (Nat.sub_le b.length m.length)]

theorem ofOutcomes_append (os os' : List (Outcome α)) :
    Report.ofOutcomes (os ++ os') =
      ⟨(Report.ofOutcomes os).diagrams ++ (Report.ofOutcomes os').diagrams,
        (Report.ofOutcomes os).errors ++ (Report.ofOutcomes os').errors⟩ := by
  simp only [Report.ofOutcomes, List.filterMap_append]

theorem ofOutcomes_moved (n : Nat) (source : List Char) (os : List (Outcome α)) :
    Report.ofOutcomes (os.map (Outcome.moved n source)) = ⟨(Report.ofOutcomes os).diagrams,
      (Report.ofOutcomes os).errors.map (Diagnostic.moved n source)⟩ := by
  simp only [Report.ofOutcomes, List.filterMap_map, List.map_filterMap]
  congr 1 <;> congr 1 <;> funext o <;> cases o <;> rfl

variable [Machine]

namespace Engine

open Statement

theorem Takes.moved (hengine : engine.Placeless) (h : Takes engine g s o w) (b : List Char) :
    Takes engine (b ++ g) s (o.moved b.length (b ++ g)) w := by
  have hfault : ∀ (f : Failure) symbol,
      ((f.fault g.length).diagnose g symbol).moved b.length (b ++ g) =
        (f.fault (b ++ g).length).diagnose (b ++ g) symbol := by
    intro f symbol
    rw [Fault.diagnose_moved, List.length_append, f.fault_add]
  cases h with
  | unread hr =>
    rw [Outcome.moved, hfault]
    exact .unread (read_fails.mpr (read_fails.mp hr))
  | unterminated hr ht =>
    obtain ⟨st', hr', hsymbol, -, -⟩ := read_reads_elsewhere hr (b ++ g).length
    rw [Outcome.moved, hfault, ← hsymbol]
    exact .unterminated hr' ht
  | @undrawn v w st fault hr ht he =>
    obtain ⟨st', hr', hsymbol, hrule, -⟩ := read_reads_elsewhere hr (b ++ g).length
    have hp := hengine _ _ he
    have hmoved : (fault.diagnose g (some st.symbol)).moved b.length (b ++ g) =
        fault.diagnose (b ++ g) (some st.symbol) := by
      rw [Fault.diagnose_moved, hp, Option.map_none, ← hp]
    rw [Outcome.moved, hmoved, ← hsymbol]
    rw [← hrule] at he
    exact .undrawn hr' ht he
  | drawn hr ht he =>
    obtain ⟨st', hr', hsymbol, hrule, hliteral⟩ := read_reads_elsewhere hr (b ++ g).length
    rw [Outcome.moved, ← hsymbol, ← hliteral]
    rw [← hrule] at he
    exact .drawn hr' ht he

theorem outcomes_moved (hengine : engine.Placeless) (b g s : List Char) :
    engine.outcomes .skip (b ++ g) s =
      (engine.outcomes .skip g s).map (Outcome.moved b.length (b ++ g)) := by
  induction s using takes_induction engine g with
  | nil => rw [outcomes_nil, outcomes_nil, List.map_nil]
  | step s o w hs h ih =>
    rw [outcomes_skip hs h, outcomes_skip hs (h.moved hengine b), ih, List.map_cons]

/-- What comes of a text that is closed in itself does not depend on what stands behind its
semicolon, and the run goes on there. -/
theorem takes_selfContained (hengine : engine.Placeless) (h : SelfContained b) :
    ∃ o, ∀ x, Takes engine (b ++ ';' :: x) (skipBlanks b ++ ';' :: x) o (skipBlanks x) := by
  obtain ⟨last, h⟩ := h
  have hscan := h.skipBlanks
  have hblank := skipBlanks_skipBlanks b
  have hskip : ∀ x, skipStatement (skipBlanks b ++ ';' :: x) = skipBlanks x := fun x => by
    rw [skipStatement, hscan.skipStatementFrom, skipStatementFrom, if_pos rfl]
  rcases read_confined hscan hblank with ⟨symbol, rule, literal, m, hm, hr⟩ | ⟨cause, m, hm, hr⟩
  · obtain ⟨mid, hmid⟩ := rest_scans hscan hblank (hr 0 [])
    rcases terminator_before_semicolon hmid with ht | ht
    · cases he : engine rule with
      | error fault =>
        refine ⟨.failed ⟨fault, none, some symbol⟩, fun x => ?_⟩
        have htakes := Takes.undrawn (hr (b ++ ';' :: x).length x) (ht x) he
        rwa [Fault.diagnose_placeless (hengine _ _ he)] at htakes
      | ok geometry =>
        exact ⟨.drawn ⟨symbol, literal, geometry⟩, fun x => .drawn (hr _ x) (ht x) he⟩
    · have hmb := (skipBlanks_suffix m).trans (hm.trans (skipBlanks_suffix b))
      refine ⟨.failed (((Failure.at .terminatorExpected (skipBlanks m)).fault b.length).diagnose b
        (some symbol)), fun x => ?_⟩
      have htakes := @Takes.unterminated _ α _ engine _ _ _ _ _ (hr (b ++ ';' :: x).length x) (ht x)
      rwa [Failure.diagnose_append _ hmb, hskip] at htakes
  · refine ⟨.failed (((Failure.at cause m).fault b.length).diagnose b none), fun x => ?_⟩
    have htakes := @Takes.unread _ α _ engine _ _ _ (hr (b ++ ';' :: x).length x)
    rwa [Failure.diagnose_append cause (hm.trans (skipBlanks_suffix b)), hskip] at htakes

theorem run_skip_append (hengine : engine.Placeless) (h : SelfContained b) (g : List Char) :
    engine.run .skip (b ++ ';' :: g) = engine.run .skip (b ++ [';']) ++
      (engine.run .skip g).map (Outcome.moved (b.length + 1) (b ++ ';' :: g)) := by
  obtain ⟨o, ho⟩ := takes_selfContained hengine h
  have hfirst : ∀ x, engine.run .skip (b ++ ';' :: x) =
      o :: engine.outcomes .skip (b ++ ';' :: x) (skipBlanks x) := fun x => by
    rw [run_eq, skipBlanks_semicolon]
    exact outcomes_skip (by simp) (ho x)
  have hrest := outcomes_moved hengine (b ++ [';']) g (skipBlanks g)
  simp only [List.append_assoc, List.singleton_append, List.length_append, List.length_singleton]
    at hrest
  rw [hfirst g, hfirst [], hrest, run_eq engine .skip g]
  rw [show skipBlanks [] = [] from rfl, outcomes_nil]
  rfl

end Engine

/-- When bad statements are skipped, a text that is closed in itself, good or bad, contributes to
the report what it contributes alone, and the text behind its semicolon too, except that positions
there count from the start of the whole. -/
theorem assemble_skip_append {engine : Engine α} (hengine : engine.Placeless) {b : List Char}
    (h : SelfContained b) (g : List Char) (c : Gallery α) :
    (c.assemble .skip engine (b ++ ';' :: g)).1 =
      ⟨(c.assemble .skip engine (b ++ [';'])).1.diagrams ++
          (c.assemble .skip engine g).1.diagrams,
        (c.assemble .skip engine (b ++ [';'])).1.errors ++
          (c.assemble .skip engine g).1.errors.map
            (Diagnostic.moved (b.length + 1) (b ++ ';' :: g))⟩ := by
  simp only [Gallery.assemble]
  rw [engine.run_skip_append hengine h g, ofOutcomes_append, ofOutcomes_moved]

omit [Machine] in
theorem assemble_skip_append_unmatched :
    letI : Machine := ⟨1⟩
    let engine : Engine Float := layoutEngine CellMetrics.standard.measure .standard
    let c : Gallery Float := {}
    engine.Placeless ∧ SelfContained "a=(?;?".toList ∧
      (c.assemble .skip engine ("a=(?;?".toList ++ ';' :: "b=c;".toList)).1 =
        ⟨(c.assemble .skip engine ("a=(?;?".toList ++ [';'])).1.diagrams ++
            (c.assemble .skip engine "b=c;".toList).1.diagrams,
          (c.assemble .skip engine ("a=(?;?".toList ++ [';'])).1.errors ++
            (c.assemble .skip engine "b=c;".toList).1.errors.map
              (Diagnostic.moved 7 ("a=(?;?".toList ++ ';' :: "b=c;".toList))⟩ := by
  let _ : Machine := ⟨1⟩
  have hclosed : SelfContained "a=(?;?".toList := by
    refine ⟨some '?', .plain (by decide) (by decide) (.plain (by decide) (by decide)
      (.plain (by decide) (by decide) ?_))⟩
    exact @Scans.quoted _ _ '?' [';'] [] (by decide) (by decide) .nil
  exact ⟨layoutEngine_placeless _ _, hclosed,
    assemble_skip_append (layoutEngine_placeless _ _) hclosed _ _⟩

end Railroad
