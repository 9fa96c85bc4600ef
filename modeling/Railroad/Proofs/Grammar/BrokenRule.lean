import Railroad.Proofs.Grammar.Completeness
import Railroad.Proofs.Grammar.Soundness

namespace Railroad.Phrase

variable {d e : Nat} {s t u v : List Char} {p : Phrase} {f : Failure}

inductive OpenLevel (Term : List Char → Phrase → Prop) : List Char → Prop
  | start {b : List Char} (hb : Blanks b) : OpenLevel Term b
  | operand {b t s b' b'' : List Char} {p : Phrase} {ps : List Phrase} {op : Operator}
      (hb : Blanks b) (ht : Term t p) (hs : OperandsText Term op.char s ps) (hb' : Blanks b')
      (hb'' : Blanks b'') : OpenLevel Term (b ++ t ++ s ++ b' ++ op.char :: b'')

/-- The front of a rule text in which parentheses nest at most `d` levels, up to where a term should
begin in which they nest at most `e` levels. -/
inductive OpenRule : (d : Nat) → List Char → (e : Nat) → Prop
  | here {d : Nat} {u : List Char} (hu : OpenLevel (TermText d) u) : OpenRule d u d
  | nested {d e : Nat} {u u' : List Char} (hu : OpenLevel (TermText (d + 1)) u)
      (hu' : OpenRule d u' e) : OpenRule (d + 1) (u ++ '(' :: u') e

inductive Stuck : (e : Nat) → List Char → Failure → Prop
  | unexpectedEnd {e : Nat} : Stuck e [] (.at .unexpectedEnd [])
  | unquoted {e : Nat} {c : Char} {s : List Char} (hc : isQuote c)
      (hq : Quoted.read? (c :: s) = none) : Stuck e (c :: s) (.at .noTerm (c :: s))
  | noTerm {e : Nat} {c : Char} {s : List Char} (hb : isBlank c = false) (hc : ¬BeginsTerm c) :
      Stuck e (c :: s) (.at .noTerm (c :: s))
  | tooDeep {s : List Char} : Stuck 0 ('(' :: s) (.at .nestedTooDeeply s)
  | unmatched {e : Nat} {s v : List Char} {p : Phrase} (hi : Reads (rule e) s p v)
      (hv : ∀ x, skipBlanks v ≠ ')' :: x) :
      Stuck (e + 1) ('(' :: s) (.at .unmatchedParenthesis ('(' :: s))

theorem Stuck.skipBlanks (h : Stuck e v f) : skipBlanks v = v := by
  cases h with
  | unexpectedEnd => rfl
  | unquoted hc _ => exact skipBlanks_cons (isBlank_eq_false_of_isQuote hc) _
  | noTerm hb => exact skipBlanks_cons hb _
  | tooDeep => rfl
  | unmatched => rfl

theorem Stuck.eq_at (h : Stuck e v f) (hf : f.cause ≠ .nestedTooDeeply) : f = .at f.cause v := by
  cases h with
  | tooDeep => exact absurd rfl hf
  | _ => rfl

theorem Stuck.termFails (h : Stuck e v f) : TermFails (enclosedRule e) v f := by
  cases h with
  | unexpectedEnd => exact .unexpectedEnd
  | unquoted hc hq => exact .unquoted hc hq
  | noTerm _ hc => exact .noTerm hc
  | tooDeep => exact .inner rfl
  | unmatched hi hv => exact .unmatched hi hv

theorem OperandsFail.split {op : Operator} (h : OperandsFail (term d) op s f) {b : List Char}
    (hb : Blanks b) : ∃ t ps b' b'' v, OperandsText (TermText d) op.char t ps ∧ Blanks b' ∧
      Blanks b'' ∧ b ++ s = t ++ b' ++ op.char :: (b'' ++ v) ∧ skipBlanks v = v ∧
      TermFails (enclosedRule d) v f := by
  induction h generalizing b with
  | @here s f ht =>
    obtain ⟨b', hb', hs⟩ := blanks_before s
    refine ⟨[], [], b, b', _, .nil, hb, hb', ?_, skipBlanks_skipBlanks s, term_fails.mp ht⟩
    conv => lhs; rw [hs]
    simp
  | @later s v p f ht _ ih =>
    obtain ⟨b₁, t, b₂, hb₁, htext, hb₂, rfl⟩ := sound_term d ht
    obtain ⟨b₃, hb₃, hv⟩ := blanks_before v
    obtain ⟨t', ps, b', b'', w, ht', hb', hb'', hs, hw, hfail⟩ := ih (hb₂.append hb₃)
    refine ⟨_, p :: ps, b', b'', w, .cons hb hb₁ htext ht', hb', hb'', ?_, hw, hfail⟩
    conv => lhs; rw [hv]
    simp only [List.append_assoc, List.cons_append] at hs ⊢
    rw [hs]

theorem rule_fails_level : rule d s = .error f ↔ ∃ u v, s = u ++ v ∧ OpenLevel (TermText d) u ∧
    skipBlanks v = v ∧ TermFails (enclosedRule d) v f := by
  constructor
  · intro h
    cases joined_fails.mp h with
    | first ht =>
      obtain ⟨b, hb, hs⟩ := blanks_before s
      exact ⟨b, _, hs, .start hb, skipBlanks_skipBlanks s, term_fails.mp ht⟩
    | @operand v p op f ht ho =>
      obtain ⟨b, t, b₁, hb, htext, hb₁, rfl⟩ := sound_term d ht
      obtain ⟨b₂, hb₂, hv⟩ := blanks_before v
      obtain ⟨t', ps, b', b'', w, ht', hb', hb'', hs, hw, hfail⟩ := ho.split (hb₁.append hb₂)
      refine ⟨_, w, ?_, .operand hb htext ht' hb' hb'', hw, hfail⟩
      conv => lhs; rw [hv]
      simp only [List.append_assoc, List.cons_append] at hs ⊢
      rw [hs]
  · rintro ⟨u, v, rfl, hu, hv, hfail⟩
    have hterm : ∀ {b}, Blanks b → term d (b ++ v) = .error f := by
      intro b hb
      rw [term_fails, skipBlanks_append hb, hv]
      exact hfail
    refine joined_fails.mpr ?_
    cases hu with
    | start hb => exact .first (hterm hb)
    | @operand b t s b' b'' p ps op hb ht hs hb' hb'' =>
      have hhere : OperandsFail (term d) op (skipBlanks (b' ++ op.char :: (b'' ++ v))) f := by
        rw [skipBlanks_before hb' (isBlank_operator op)]
        exact .here (hterm hb'')
      have hends := endsTerm_operator hb' op (b'' ++ v)
      obtain ⟨hends, ho⟩ := operandsText_fails (complete_term d) hs hends hhere
      obtain ⟨w, hr, hw⟩ := complete_term d hb ht hends
      have hsplit : b ++ t ++ s ++ b' ++ op.char :: b'' ++ v =
          b ++ t ++ (s ++ (b' ++ op.char :: (b'' ++ v))) := by simp
      rw [hsplit]
      exact .operand hr (hw ▸ ho)

/-- Where a term fails, it fails at once, or the rule in its parentheses does. -/
theorem TermFails.stuck (h : TermFails (enclosedRule d) v f) (hv : skipBlanks v = v) :
    Stuck d v f ∨ ∃ e s, d = e + 1 ∧ v = '(' :: s ∧ rule e s = .error f := by
  cases h with
  | unexpectedEnd => exact .inl .unexpectedEnd
  | unquoted hc hq => exact .inl (.unquoted hc hq)
  | noTerm hc => exact .inl (.noTerm (head_skipBlanks hv) hc)
  | @inner s f hi =>
    cases d with
    | zero =>
      cases hi
      exact .inl .tooDeep
    | succ e => exact .inr ⟨e, s, rfl, rfl, hi⟩
  | unmatched hi hs =>
    cases d with
    | zero =>
      obtain ⟨_, hi⟩ := hi
      cases hi
    | succ e => exact .inl (.unmatched hi hs)

/-- A rule fails exactly where the front of a rule text is followed by something that is no term. -/
theorem rule_fails : rule d s = .error f ↔
    ∃ u v e, s = u ++ v ∧ OpenRule d u e ∧ Stuck e v f := by
  constructor
  · intro h
    induction d generalizing s with
    | zero =>
      obtain ⟨u, v, hs, hu, hv, hfail⟩ := rule_fails_level.mp h
      rcases hfail.stuck hv with hstuck | ⟨e, _, he, -⟩
      · exact ⟨u, v, 0, hs, .here hu, hstuck⟩
      · cases he
    | succ d ih =>
      obtain ⟨u, v, hs, hu, hv, hfail⟩ := rule_fails_level.mp h
      rcases hfail.stuck hv with hstuck | ⟨e, s', he, rfl, hr⟩
      · exact ⟨u, v, d + 1, hs, .here hu, hstuck⟩
      · cases he
        obtain ⟨u', v', e, rfl, hu', hstuck⟩ := ih hr
        exact ⟨u ++ '(' :: u', v', e, by simp [hs], .nested hu hu', hstuck⟩
  · rintro ⟨u, v, e, rfl, hu, hstuck⟩
    induction hu with
    | here hu => exact rule_fails_level.mpr ⟨_, v, rfl, hu, hstuck.skipBlanks, hstuck.termFails⟩
    | @nested d e u u' hu _ ih =>
      refine rule_fails_level.mpr ⟨u, '(' :: (u' ++ v), by simp, hu, rfl, ?_⟩
      exact .inner (ih hstuck)

end Railroad.Phrase
