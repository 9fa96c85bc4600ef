import Railroad.Proofs.Assembly.Turns
import Railroad.Proofs.Recovery.Progress

namespace Railroad

open Statement

variable [Machine] {α : Type} [Scalar α] {engine : Engine α} {policy : ErrorPolicy} {n : Nat}
  {source s v w : List Char} {st : Statement} {o : Outcome α} {t : Turn α}

theorem skipStatement_of_reads (hr : Reads (read n) s st v) (ht : Reads terminator v () w) :
    skipStatement s = w := by
  obtain ⟨t, b, name, p, htext, hb, hsplit, -⟩ := read_text hr
  obtain ⟨u, hu, rfl⟩ := terminator_reads.mp ht
  obtain ⟨b₁, hb₁, rfl⟩ := exists_blanks hu
  obtain ⟨b₀, hb₀, hs⟩ := blanks_before s
  obtain ⟨last, _, -, hpass⟩ := statementText_passes none htext
  have hscan : Scans none (b₀ ++ (t ++ (b ++ b₁))) last :=
    (Scans.blanks hb₀).append (hpass.scans.append (.blanks (hb.append hb₁)))
  have hs : s = b₀ ++ (t ++ (b ++ b₁)) ++ ';' :: u := by
    rw [hs, hsplit]
    simp
  rw [skipStatement, hs, hscan.skipStatementFrom, skipStatementFrom, if_pos rfl]

theorem Engine.Takes.next_eq (h : engine.Takes source s o w) : w = skipStatement s := by
  cases h with
  | unread => rfl
  | unterminated => rfl
  | undrawn hr ht => exact (skipStatement_of_reads hr ht).symm
  | drawn hr ht => exact (skipStatement_of_reads hr ht).symm

theorem Engine.turn_next (engine : Engine α) (source s : List Char) :
    (engine.turn source s).next = skipStatement s := (takes_turn engine source s).next_eq

theorem Engine.next_of_mem_turns (h : t ∈ engine.turns policy source s) :
    t.next = skipStatement t.start := by
  have hturn : ∀ s, (engine.turn source s).next = skipStatement (engine.turn source s).start := by
    intro s
    rw [turn_next, turn_eq.mpr (takes_turn engine source s)]
  -- every turn leaves a shorter text
  induction hn : s.length using Nat.strong_induction_on generalizing s with
  | _ n ih =>
    cases s with
    | nil =>
      rw [turns.eq_def] at h
      cases h
    | cons c s =>
      have hlt := engine.turn_next_shorter source (List.cons_ne_nil c s)
      rw [turns.eq_def] at h
      dsimp only at h
      split at h
      · rw [List.mem_singleton.mp h]
        exact hturn _
      · rcases List.mem_cons.mp h with rfl | h
        · exact hturn _
        · exact ih _ (hn ▸ hlt) h rfl

/-- Where a statement is read and its semicolon behind it, skipping the statement leads to where
reading it does.  So in every run, whatever the engine draws of what it is given, the turns go on
where skipping their statements leads. -/
theorem skipStatement_agrees :
    (∀ (n : Nat) (s v w : List Char) (st : Statement), Reads (read n) s st v →
      Reads terminator v () w → skipStatement s = w) ∧
    ∀ (α : Type) [Scalar α] (engine : Engine α) (policy : ErrorPolicy) (source : List Char),
      ∀ t ∈ engine.turns policy source (skipBlanks source), t.next = skipStatement t.start :=
  ⟨fun _ _ _ _ _ => skipStatement_of_reads, fun _ _ _ _ _ _ => Engine.next_of_mem_turns⟩

omit [Machine] in
theorem skipStatement_agrees_suffix :
    letI : Machine := ⟨1⟩
    let s := " a = ( ';)' , ?\";? )\n ? ; b = c;".toList
    let st : Statement := ⟨"a", .choice (.sequence [.terminal ";)" .normal,
      .terminal "\";" .special]) .empty [], "(';)',?\";?)?", 1⟩
    let engine : Engine Float := fun _ => .error ⟨.structural, "not drawn", none⟩
    let t : Turn Float := ⟨s.tail, .failed (Fault.diagnose ⟨.structural, "not drawn", none⟩ s "a"),
      "b = c;".toList⟩
    Reads (read 32) s st "; b = c;".toList ∧ Reads terminator "; b = c;".toList () t.next ∧
      skipStatement s = t.next ∧ t ∈ engine.turns .skip s (skipBlanks s) ∧
      t.next = skipStatement t.start := by
  let _ : Machine := ⟨1⟩
  intro s st engine t
  have hr : Reads (read 32) s st "; b = c;".toList := ⟨by decide, by with_unfolding_all rfl⟩
  have ht : Reads terminator "; b = c;".toList () t.next := ⟨by decide, by with_unfolding_all rfl⟩
  have hturns : engine.turns .skip s (skipBlanks s) = t :: engine.turns .skip s t.next := by
    with_unfolding_all rfl
  have hmem : t ∈ engine.turns .skip s (skipBlanks s) := by
    rw [hturns]
    exact List.mem_cons_self
  exact ⟨hr, ht, skipStatement_agrees.1 _ _ _ _ _ hr ht, hmem,
    skipStatement_agrees.2 _ engine _ _ t hmem⟩

end Railroad
