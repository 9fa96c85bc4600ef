import Railroad.Proofs.Grammar.BrokenStatement

namespace Railroad

variable {d e start : Nat} {s t u v : List Char} {p : Phrase} {f : Failure}

theorem OperandsText.append {Term : List Char → Phrase → Prop} {op : Char} {ps qs : List Phrase}
    (h : OperandsText Term op s ps) (h' : OperandsText Term op t qs) :
    OperandsText Term op (s ++ t) (ps ++ qs) := by
  induction h with
  | nil => exact h'
  | cons hb hb' ht _ ih => simpa using OperandsText.cons hb hb' ht ih

theorem StatementsText.append {sts sts' : List Statement} (h : StatementsText d start s sts)
    (h' : StatementsText d (start + s.length) t sts') :
    StatementsText d start (s ++ t) (sts ++ sts') := by
  induction h with
  | nil => exact h'
  | @cons start u b b' s name p sts ht hb hb' _ ih =>
    have hstart : start + (u ++ b ++ ';' :: (b' ++ s)).length =
        start + (u ++ b ++ ';' :: b').length + s.length := by
      simp only [List.length_append, List.length_cons]
      omega
    rw [hstart] at h'
    have hsplit : u ++ b ++ ';' :: (b' ++ s) ++ t = u ++ b ++ ';' :: (b' ++ (s ++ t)) := by simp
    rw [hsplit]
    exact .cons ht hb hb' (ih h')

theorem underscore_termText (d : Nat) : TermText d ['_'] .underscore := by
  cases d with
  | zero => exact .underscore
  | succ d => exact .underscore

namespace Phrase

theorem OpenLevel.completed {Term : List Char → Phrase → Prop} (h : OpenLevel Term u)
    (ht : Term t p) : ∃ b t' q, Blanks b ∧ RuleTextOf Term t' q ∧ u ++ t = b ++ t' := by
  cases h with
  | start hb => exact ⟨_, t, p, hb, .single ht, rfl⟩
  | @operand b t₁ s b' b'' q qs op hb ht₁ hs hb' hb'' =>
    have hlast : OperandsText Term op.char _ [p] := .cons hb' hb'' ht .nil
    have hall := hs.append hlast
    obtain ⟨q', qs', hqs⟩ : ∃ q' qs', qs ++ [p] = q' :: qs' :=
      List.exists_cons_of_ne_nil (by simp)
    rw [hqs] at hall
    refine ⟨b, _, _, hb, .level ht₁ hall (levelTree_iff.mpr ⟨op, rfl, rfl⟩), ?_⟩
    simp

theorem OpenRule.completed (h : OpenRule d u e) :
    ∃ z b t p, Blanks b ∧ RuleText d t p ∧ u ++ z = b ++ t := by
  induction h with
  | @here d u hu =>
    obtain ⟨b, t, p, hb, ht, hsplit⟩ := hu.completed (underscore_termText d)
    exact ⟨['_'], b, t, p, hb, ht, hsplit⟩
  | @nested d e u u' hu _ ih =>
    obtain ⟨z, b, t, p, hb, ht, hsplit⟩ := ih
    have hterm : TermText (d + 1) ('(' :: (b ++ t ++ [] ++ [')'])) p.parenthesised :=
      .enclosed hb ht blanks_nil
    obtain ⟨b', t', q, hb', ht', hsplit'⟩ := hu.completed hterm
    refine ⟨z ++ [')'], b', t', q, hb', ht', ?_⟩
    rw [← hsplit', List.append_nil, ← hsplit]
    simp

end Phrase

namespace Statement

open Machine

variable [Machine]

theorem BrokenBody.completed (h : BrokenBody u v f) :
    ∃ z b t b' p, Blanks b ∧ RuleText nestingLimit t p ∧ Blanks b' ∧ u ++ z = b ++ t ++ b' := by
  cases h with
  | stuck hu =>
    obtain ⟨z, b, t, p, hb, ht, hsplit⟩ := hu.completed
    exact ⟨z, b, t, [], p, hb, ht, blanks_nil, by rw [hsplit, List.append_nil]⟩
  | tooDeep =>
    have hrule := RuleTextOf.single (underscore_termText nestingLimit)
    exact ⟨['_'], [], ['_'], [], _, blanks_nil, hrule, blanks_nil, rfl⟩
  | @unterminated _ _ b _ hr hb =>
    obtain ⟨b₁, t, b₂, hb₁, ht, hb₂, hs⟩ := Phrase.sound_rule nestingLimit (body_reads.mp hr)
    rw [← List.append_assoc] at hs
    refine ⟨[], b₁, t, b₂ ++ b, _, hb₁, ht, hb₂.append hb, ?_⟩
    rw [List.append_cancel_right hs]
    simp

/-- What is read before a statement fails is the front of a statement. -/
theorem BrokenStatement.completed (h : BrokenStatement u v f) :
    ∃ z t b name p, StatementText nestingLimit t name p ∧ Blanks b ∧ u ++ z = t ++ b := by
  have hrule := RuleTextOf.single (underscore_termText nestingLimit)
  cases h with
  | symbol =>
    have hname : IsName ['a'] := ⟨by decide, by simp⟩
    exact ⟨_, _, [], _, _, .intro hname blanks_nil blanks_nil hrule, blanks_nil,
      (List.append_nil _).symm⟩
  | @equals name b _ hn hb =>
    refine ⟨['=', '_'], _, [], _, _, .intro hn hb blanks_nil hrule, blanks_nil, ?_⟩
    simp
  | @body name b b' u v f hn hb hb' _ h =>
    obtain ⟨z, b₁, t, b₂, p, hb₁, ht, hb₂, hsplit⟩ := h.completed
    refine ⟨z, _, b₂, _, _, .intro hn hb (hb'.append hb₁) ht, hb₂, ?_⟩
    simp only [List.append_assoc, List.cons_append] at hsplit ⊢
    rw [hsplit]

end Statement

end Railroad
