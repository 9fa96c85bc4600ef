import Railroad.Assembly
import Railroad.Proofs.Grammar.StatementReading

namespace Railroad.Engine

open Statement

variable [Machine] {α : Type} [Scalar α] {engine : Engine α} {source s w : List Char} {o : Outcome α}

inductive Takes (engine : Engine α) (source : List Char) :
    List Char → Outcome α → List Char → Prop
  | unread {s : List Char} {f : Failure} (hr : read source.length s = .error f) :
      Takes engine source s (.failed ((f.fault source.length).diagnose source none))
        (skipStatement s)
  | unterminated {s v : List Char} {st : Statement} {f : Failure}
      (hr : Reads (read source.length) s st v) (ht : terminator v = .error f) :
      Takes engine source s (.failed ((f.fault source.length).diagnose source (some st.symbol)))
        (skipStatement s)
  | undrawn {s v w : List Char} {st : Statement} {fault : Fault}
      (hr : Reads (read source.length) s st v) (ht : Reads terminator v () w)
      (he : engine st.rule = .error fault) :
      Takes engine source s (.failed (fault.diagnose source (some st.symbol))) w
  | drawn {s v w : List Char} {st : Statement} {geometry : Geometry α}
      (hr : Reads (read source.length) s st v) (ht : Reads terminator v () w)
      (he : engine st.rule = .ok geometry) :
      Takes engine source s (.drawn ⟨st.symbol, st.literal, geometry⟩) w

theorem takes_turn (engine : Engine α) (source s : List Char) :
    Takes engine source s (engine.turn source s).outcome (engine.turn source s).next := by
  unfold turn
  split
  · rename_i hr
    exact .unread hr
  · rename_i st hr
    dsimp only
    split
    · rename_i ht
      exact .unterminated ⟨st.shorter, hr⟩ ht
    · rename_i t ht
      split
      · rename_i he
        exact .undrawn ⟨st.shorter, hr⟩ ⟨t.shorter, ht⟩ he
      · rename_i he
        exact .drawn ⟨st.shorter, hr⟩ ⟨t.shorter, ht⟩ he

theorem turn_eq : engine.turn source s = ⟨s, o, w⟩ ↔ Takes engine source s o w := by
  constructor
  · intro h
    have ht := takes_turn engine source s
    rwa [h] at ht
  · intro h
    unfold turn
    cases h with
    | unread hr => rw [hr]
    | unterminated hr ht =>
      obtain ⟨_, hr⟩ := hr
      rw [hr]
      simp only [ht]
    | undrawn hr ht he =>
      obtain ⟨_, hr⟩ := hr
      obtain ⟨_, ht⟩ := ht
      rw [hr]
      simp only [ht, he]
    | drawn hr ht he =>
      obtain ⟨_, hr⟩ := hr
      obtain ⟨_, ht⟩ := ht
      rw [hr]
      simp only [ht, he]

def outcomes (engine : Engine α) (policy : ErrorPolicy) (source s : List Char) :
    List (Outcome α) :=
  (engine.turns policy source s).map Turn.outcome

theorem run_eq (engine : Engine α) (policy : ErrorPolicy) (source : List Char) :
    engine.run policy source = engine.outcomes policy source (skipBlanks source) := rfl

theorem outcomes_nil (policy : ErrorPolicy) : engine.outcomes policy source [] = [] := by
  rw [outcomes, turns.eq_def]
  rfl

theorem outcomes_skip (hs : s ≠ []) (h : Takes engine source s o w) :
    engine.outcomes .skip source s = o :: engine.outcomes .skip source w := by
  cases s with
  | nil => exact absurd rfl hs
  | cons c s =>
    rw [outcomes, turns.eq_def]
    simp only [turn_eq.mpr h]
    cases o <;> rfl

theorem outcomes_drawn {policy : ErrorPolicy} {d : Diagram α} (hs : s ≠ [])
    (h : Takes engine source s (.drawn d) w) :
    engine.outcomes policy source s = .drawn d :: engine.outcomes policy source w := by
  cases s with
  | nil => exact absurd rfl hs
  | cons c s =>
    rw [outcomes, turns.eq_def]
    simp only [turn_eq.mpr h]
    rfl

theorem outcomes_abort {d : Diagnostic} (hs : s ≠ []) (h : Takes engine source s (.failed d) w) :
    engine.outcomes .abort source s = [.failed d] := by
  cases s with
  | nil => exact absurd rfl hs
  | cons c s =>
    rw [outcomes, turns.eq_def]
    simp only [turn_eq.mpr h]
    rfl

theorem Takes.shorter (h : Takes engine source s o w) (hs : s ≠ []) : w.length < s.length := by
  have hlt := engine.turn_next_shorter source hs
  rwa [turn_eq.mpr h] at hlt

/-- What holds of a text whenever it holds of what a turn leaves of it holds of every text. -/
theorem takes_induction (engine : Engine α) (source : List Char) {motive : List Char → Prop}
    (nil : motive [])
    (step : ∀ s o w, s ≠ [] → Takes engine source s o w → motive w → motive s)
    (s : List Char) : motive s := by
  -- every turn leaves a shorter text
  induction hn : s.length using Nat.strong_induction_on generalizing s with
  | _ n ih =>
    by_cases hs : s = []
    · rw [hs]
      exact nil
    · have htakes := takes_turn engine source s
      have hlt : (engine.turn source s).next.length < n := hn ▸ htakes.shorter hs
      exact step s _ _ hs htakes (ih _ hlt _ rfl)

theorem exists_takes_of_mem_outcomes {policy : ErrorPolicy}
    (h : o ∈ engine.outcomes policy source s) : ∃ s' w, Takes engine source s' o w := by
  induction s using takes_induction engine source with
  | nil =>
    rw [outcomes_nil] at h
    cases h
  | step s o' w hs htakes ih =>
    have hcons : o ∈ o' :: engine.outcomes policy source w → ∃ s' w, Takes engine source s' o w := by
      intro h
      rcases List.mem_cons.mp h with rfl | h
      · exact ⟨s, w, htakes⟩
      · exact ih h
    cases o' with
    | drawn d =>
      rw [outcomes_drawn hs htakes] at h
      exact hcons h
    | failed d =>
      cases policy with
      | abort =>
        rw [outcomes_abort hs htakes, List.mem_singleton] at h
        exact ⟨s, w, h ▸ htakes⟩
      | skip =>
        rw [outcomes_skip hs htakes] at h
        exact hcons h

end Railroad.Engine
