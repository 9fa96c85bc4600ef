import Railroad.Proofs.Grammar.Token

namespace Railroad

/-- The reader takes `v` from the front of `s` and leaves `w`. -/
def Reads {β : Type} (R : Reader β) (s : List Char) (v : β) (w : List Char) : Prop :=
  ∃ h, R s = .ok ⟨v, w, h⟩

theorem reads_or_error {β : Type} (R : Reader β) (s : List Char) :
    (∃ v w, Reads R s v w) ∨ ∃ f, R s = .error f := by
  cases h : R s with
  | ok r => exact .inl ⟨r.value, r.rest, r.shorter, h⟩
  | error f => exact .inr ⟨f, rfl⟩

namespace Phrase

inductive Closes (q : Phrase) : List Char → Phrase → List Char → Prop
  | plain {s x : List Char} (hs : skipBlanks s = ')' :: x)
      (hx : ∀ c ∈ (skipBlanks x).head?, Repetition.ofChar? c = none) :
      Closes q s q.parenthesised (skipBlanks x)
  | suffixed {s x w : List Char} {r : Repetition} (hs : skipBlanks s = ')' :: x)
      (hx : skipBlanks x = r.char :: w) : Closes q s (q.repeated r) w

theorem repeated_eq (q : Phrase) (r : Repetition) :
    q.repeated r = ⟨r.node q.tree, '(' :: (q.literal ++ [')', r.char])⟩ := by
  simp [repeated, parenthesised]

theorem Closes.shorter {q p : Phrase} {s w : List Char} (h : Closes q s p w) :
    w.length < s.length := by
  have hs' := length_skipBlanks s
  cases h with
  | plain hs hx =>
    rename_i x
    have := length_skipBlanks x
    rw [hs, List.length_cons] at hs'
    omega
  | suffixed hs hx =>
    rename_i x r
    have := length_skipBlanks x
    rw [hs, List.length_cons] at hs'
    rw [hx, List.length_cons] at this
    omega

theorem close_reads {whole s w : List Char} {inner : Read Phrase s} {p : Phrase} :
    (∃ h, close whole inner = .ok ⟨p, w, h⟩) ↔ Closes inner.value inner.rest p w := by
  constructor
  · rintro ⟨h, hc⟩
    unfold close at hc
    split at hc
    · rename_i x hs
      split at hc
      · rename_i hx
        cases hc
        simpa only [hx] using Closes.plain (q := inner.value) hs (by simp [hx])
      · rename_i c t hx
        split at hc
        · rename_i hn
          cases hc
          simpa only [hx] using Closes.plain (q := inner.value) hs (by simpa [hx] using hn)
        · rename_i r hr
          cases hc
          exact .suffixed hs (by rw [hx, ofChar?_repetition.mp hr])
    · cases hc
  · intro hc
    refine ⟨hc.shorter.trans inner.shorter, ?_⟩
    unfold close
    cases hc with
    | plain hs hx =>
      split
      · rename_i x' hs'
        obtain rfl : x' = _ := by simpa [hs'] using hs
        split
        · rename_i hx'
          simp [hx']
        · rename_i c t hx'
          rw [hx'] at hx
          rw [hx c rfl]
          simp [hx']
      · rename_i hne
        exact absurd hs (hne _)
    | suffixed hs hx =>
      split
      · rename_i x' hs'
        obtain rfl : x' = _ := by simpa [hs'] using hs
        split
        · rename_i hx'
          rw [hx'] at hx
          cases hx
        · rename_i c t hx'
          rw [hx'] at hx
          cases hx
          rw [ofChar?_repetition.mpr rfl]
      · rename_i hne
        exact absurd hs (hne _)

theorem close_fails {whole s : List Char} {inner : Read Phrase s} {f : Failure} :
    close whole inner = .error f ↔
      (∀ x, skipBlanks inner.rest ≠ ')' :: x) ∧ f = .at .unmatchedParenthesis whole := by
  unfold close
  split
  · rename_i x hs
    refine ⟨fun h => ?_, fun h => absurd hs (h.1 x)⟩
    split at h
    · cases h
    · split at h <;> cases h
  · rename_i hne
    exact ⟨fun h => ⟨hne, by cases h; rfl⟩, fun h => by rw [h.2]⟩

/-- How a term is read; `inner` reads what stands in parentheses. -/
inductive TermReads (inner : Reader Phrase) : List Char → Phrase → List Char → Prop
  | quoted {s : List Char} {q : Quoted} (hq : Quoted.read? s = some q) :
      TermReads inner s (.quoted q) q.rest
  | identifier {s : List Char} {i : Identifier} (hi : Identifier.read? s = some i) :
      TermReads inner s (.identifier i) i.rest
  | underscore {s : List Char} : TermReads inner ('_' :: s) .underscore s
  | enclosed {s v w : List Char} {q p : Phrase} (hi : Reads inner s q v) (hc : Closes q v p w) :
      TermReads inner ('(' :: s) p w

def BeginsTerm (c : Char) : Prop := isQuote c ∨ isNameStart c ∨ c = '_' ∨ c = '('

inductive TermFails (inner : Reader Phrase) : List Char → Failure → Prop
  | unexpectedEnd : TermFails inner [] (.at .unexpectedEnd [])
  | unquoted {c : Char} {s : List Char} (hc : isQuote c) (hq : Quoted.read? (c :: s) = none) :
      TermFails inner (c :: s) (.at .noTerm (c :: s))
  | noTerm {c : Char} {s : List Char} (hc : ¬BeginsTerm c) :
      TermFails inner (c :: s) (.at .noTerm (c :: s))
  | inner {s : List Char} {f : Failure} (hi : inner s = .error f) : TermFails inner ('(' :: s) f
  | unmatched {s v : List Char} {q : Phrase} (hi : Reads inner s q v)
      (hv : ∀ x, skipBlanks v ≠ ')' :: x) :
      TermFails inner ('(' :: s) (.at .unmatchedParenthesis ('(' :: s))

theorem termOf_parenthesis (inner : Reader Phrase) (s : List Char) :
    termOf inner ('(' :: s) =
      match inner s with
      | .error f => .error f
      | .ok r =>
        match close ('(' :: s) r with
        | .error f => .error f
        | .ok p => .ok (p.ofShorter (Nat.le_of_lt length_lt_cons)) := rfl

theorem termOf_spec {inner : Reader Phrase} {s : List Char} {x : Except Failure (Read Phrase s)}
    (h : termOf inner s = x) :
    match x with
    | .ok r => TermReads inner s r.value r.rest
    | .error f => TermFails inner s f := by
  cases s with
  | nil =>
    subst h
    exact .unexpectedEnd
  | cons c s =>
    rw [termOf] at h
    split at h
    · rename_i hc
      split at h
      · rename_i q hq
        subst h
        exact .quoted hq
      · rename_i hq
        subst h
        exact .unquoted hc hq
    · rename_i hq
      split at h
      · rename_i i hi
        subst h
        exact .identifier hi
      · rename_i hi
        split at h
        · rename_i hc
          subst hc h
          exact .underscore
        · rename_i hu
          split at h
          · rename_i hc
            subst hc
            split at h
            · rename_i hr
              subst h
              exact .inner hr
            · rename_i r hr
              split at h
              · rename_i hr'
                subst h
                obtain ⟨hv, rfl⟩ := close_fails.mp hr'
                exact .unmatched ⟨r.shorter, hr⟩ hv
              · rename_i r' hr'
                subst h
                exact .enclosed ⟨r.shorter, hr⟩ (close_reads.mp ⟨r'.shorter, hr'⟩)
          · rename_i hp
            subst h
            refine .noTerm ?_
            rintro (h | h | h | h)
            · exact hq h
            · rw [Identifier.read?, if_pos h] at hi
              cases hi
            · exact hu h
            · exact hp h

theorem termOf_reads {inner : Reader Phrase} {s w : List Char} {p : Phrase} :
    Reads (termOf inner) s p w ↔ TermReads inner s p w := by
  refine ⟨fun ⟨_, h⟩ => termOf_spec h, fun ht => ?_⟩
  cases ht with
  | quoted hq =>
    obtain ⟨hd, -, -, rfl⟩ := Quoted.of_read? hq
    refine ⟨Quoted.length_rest hq, ?_⟩
    rw [termOf, if_pos hd]
    split
    · rename_i q' hq'
      cases hq.symm.trans hq'
      rfl
    · rename_i hq'
      cases hq.symm.trans hq'
  | identifier hi =>
    refine ⟨Identifier.length_rest hi, ?_⟩
    cases s with
    | nil => cases hi
    | cons c s =>
      have hc : isQuote c = false := by
        cases hn : isNameStart c with
        | false => rw [Identifier.read?_eq_none hn] at hi; cases hi
        | true => exact isQuote_eq_false_of_isNameChar (isNameChar_of_isNameStart hn)
      rw [termOf, if_neg (by simp [hc])]
      split
      · rename_i i' hi'
        cases hi.symm.trans hi'
        rfl
      · rename_i hi'
        cases hi.symm.trans hi'
  | underscore => exact ⟨length_lt_cons, rfl⟩
  | @enclosed s v w q p hi hc =>
    obtain ⟨h, hi⟩ := hi
    obtain ⟨h', hc⟩ := (@close_reads ('(' :: s) s w ⟨q, v, h⟩ p).mpr hc
    refine ⟨h'.trans length_lt_cons, ?_⟩
    rw [termOf_parenthesis, hi]
    simp only [hc]
    rfl

theorem termOf_fails {inner : Reader Phrase} {s : List Char} {f : Failure} :
    termOf inner s = .error f ↔ TermFails inner s f := by
  refine ⟨termOf_spec, fun ht => ?_⟩
  cases ht with
  | unexpectedEnd => rfl
  | unquoted hc hq =>
    rw [termOf, if_pos hc]
    split
    · rename_i hq'
      cases hq.symm.trans hq'
    · rfl
  | noTerm hc =>
    simp only [BeginsTerm, not_or] at hc
    obtain ⟨hq, hn, hu, hp⟩ := hc
    rw [termOf, if_neg hq]
    split
    · rename_i hi
      rw [Identifier.read?, if_neg hn] at hi
      cases hi
    · rw [if_neg hu, if_neg hp]
  | inner hi => rw [termOf_parenthesis, hi]
  | @unmatched s v q hi hv =>
    obtain ⟨h, hi⟩ := hi
    have hc := (@close_fails ('(' :: s) s ⟨q, v, h⟩ _).mpr ⟨hv, rfl⟩
    rw [termOf_parenthesis, hi]
    simp only [hc]

inductive OperandsRead (term : Reader Phrase) (op : Operator) :
    List Char → List Phrase → List Char → Prop
  | stop {s : List Char} (hs : ∀ c ∈ s.head?, c ≠ op.char) : OperandsRead term op s [] s
  | more {s v w : List Char} {p : Phrase} {ps : List Phrase} (ht : Reads term s p v)
      (hs : OperandsRead term op (skipBlanks v) ps w) :
      OperandsRead term op (op.char :: s) (p :: ps) w

inductive OperandsFail (term : Reader Phrase) (op : Operator) : List Char → Failure → Prop
  | here {s : List Char} {f : Failure} (ht : term s = .error f) :
      OperandsFail term op (op.char :: s) f
  | later {s v : List Char} {p : Phrase} {f : Failure} (ht : Reads term s p v)
      (hs : OperandsFail term op (skipBlanks v) f) : OperandsFail term op (op.char :: s) f

theorem operands_of_ok {term : Reader Phrase} {op : Operator} {s : List Char} {os : Operands s}
    (h : operands term op s = .ok os) : OperandsRead term op s os.phrases os.rest := by
  fun_induction operands term op s with
  | case1 =>
    cases h
    exact .stop (by simp)
  | case2 => cases h
  | case3 => cases h
  | case4 r p hp os' hos ih =>
    cases h
    exact .more ⟨p.shorter, hp⟩ (ih hos)
  | case5 c r hc =>
    cases h
    exact .stop (by simpa [Operands.nothing] using hc)

theorem operands_of_error {term : Reader Phrase} {op : Operator} {s : List Char} {f : Failure}
    (h : operands term op s = .error f) : OperandsFail term op s f := by
  fun_induction operands term op s with
  | case1 => cases h
  | case2 r e he =>
    cases h
    exact .here he
  | case3 r p hp e he ih =>
    cases h
    exact .later ⟨p.shorter, hp⟩ (ih he)
  | case4 => cases h
  | case5 => cases h

theorem operands_reads {term : Reader Phrase} {op : Operator} {s w : List Char}
    {ps : List Phrase} :
    (∃ h, operands term op s = .ok ⟨ps, w, h⟩) ↔ OperandsRead term op s ps w := by
  constructor
  · rintro ⟨h, ho⟩
    exact operands_of_ok ho
  · intro h
    induction h with
    | @stop s hs =>
      refine ⟨Nat.le_refl _, ?_⟩
      cases s with
      | nil => rw [operands]; rfl
      | cons c s => rw [operands, if_neg (hs c rfl)]; rfl
    | @more s v w p ps ht _ ih =>
      obtain ⟨h, ht⟩ := ht
      obtain ⟨h', hs⟩ := ih
      refine ⟨(Operands.cons op.char ⟨p, v, h⟩ ⟨ps, w, h'⟩).le, ?_⟩
      rw [operands, if_pos rfl, ht]
      simp only [hs]
      rfl

theorem operands_fails {term : Reader Phrase} {op : Operator} {s : List Char} {f : Failure} :
    operands term op s = .error f ↔ OperandsFail term op s f := by
  refine ⟨operands_of_error, fun h => ?_⟩
  induction h with
  | here ht => rw [operands, if_pos rfl, ht]
  | later ht _ ih =>
    obtain ⟨h, ht⟩ := ht
    rw [operands, if_pos rfl, ht]
    simp only [ih]

inductive RuleReads (term : Reader Phrase) : List Char → Phrase → List Char → Prop
  | single {s v : List Char} {p : Phrase} (ht : Reads term s p v)
      (hv : ∀ c ∈ (skipBlanks v).head?, Operator.ofChar? c = none) :
      RuleReads term s p (skipBlanks v)
  | level {s v w : List Char} {p q : Phrase} {qs : List Phrase} {op : Operator}
      (ht : Reads term s p v) (ho : OperandsRead term op (skipBlanks v) (q :: qs) w) :
      RuleReads term s (op.join p q qs) w

inductive RuleFails (term : Reader Phrase) : List Char → Failure → Prop
  | first {s : List Char} {f : Failure} (ht : term s = .error f) : RuleFails term s f
  | operand {s v : List Char} {p : Phrase} {op : Operator} {f : Failure} (ht : Reads term s p v)
      (ho : OperandsFail term op (skipBlanks v) f) : RuleFails term s f

theorem joined_spec {term : Reader Phrase} {s : List Char} {x : Except Failure (Read Phrase s)}
    (h : joined term s = x) :
    match x with
    | .ok r => RuleReads term s r.value r.rest
    | .error f => RuleFails term s f := by
  unfold joined at h
  split at h
  · rename_i ht
    subst h
    exact .first ht
  · rename_i first ht
    have hf : Reads term s first.value first.rest := ⟨first.shorter, ht⟩
    split at h
    · rename_i hv
      subst h
      simpa only [hv] using RuleReads.single hf (by simp [hv])
    · rename_i c t hv
      split at h
      · rename_i hc
        subst h
        simpa only [hv] using RuleReads.single hf (by simpa [hv] using hc)
      · rename_i op hc
        have hop : skipBlanks first.rest = op.char :: t := by rw [hv, ofChar?_operator.mp hc]
        split at h
        · rename_i hs
          subst h
          have hfail := @OperandsFail.here term op _ _ hs
          rw [← hop] at hfail
          exact .operand hf hfail
        · rename_i second hs
          have hsecond : Reads term t second.value second.rest := ⟨second.shorter, hs⟩
          split at h
          · rename_i ho
            subst h
            have hfail := OperandsFail.later hsecond (operands_of_error ho)
            rw [← hop] at hfail
            exact .operand hf hfail
          · rename_i others ho
            subst h
            have hread := OperandsRead.more hsecond (operands_of_ok ho)
            rw [← hop] at hread
            exact .level hf hread

theorem joined_reads {term : Reader Phrase} {s w : List Char} {p : Phrase} :
    Reads (joined term) s p w ↔ RuleReads term s p w := by
  refine ⟨fun ⟨_, h⟩ => joined_spec h, fun h => ?_⟩
  cases h with
  | @single v p ht hv =>
    obtain ⟨h, ht⟩ := ht
    refine ⟨Nat.lt_of_le_of_lt (length_skipBlanks v) h, ?_⟩
    unfold joined
    rw [ht]
    dsimp only
    split
    · rename_i hv'
      simp only [hv']
    · rename_i c t hv'
      rw [hv'] at hv
      simp only [hv c rfl, hv']
  | @level v w p q qs op ht ho =>
    obtain ⟨h, ht⟩ := ht
    obtain ⟨hle, -⟩ := operands_reads.mpr ho
    have hw : w.length < s.length := Nat.lt_of_le_of_lt (hle.trans (length_skipBlanks v)) h
    refine ⟨hw, ?_⟩
    generalize hv : skipBlanks v = u at ho
    cases ho with
    | more hq hs =>
      obtain ⟨h', hq⟩ := hq
      obtain ⟨h'', hs⟩ := operands_reads.mpr hs
      unfold joined
      rw [ht]
      dsimp only
      split
      · rename_i hv'
        cases hv.symm.trans hv'
      · rename_i c t hv'
        cases hv.symm.trans hv'
        rw [ofChar?_operator.mpr rfl]
        simp only [hq, hs]

theorem joined_fails {term : Reader Phrase} {s : List Char} {f : Failure} :
    joined term s = .error f ↔ RuleFails term s f := by
  refine ⟨joined_spec, fun h => ?_⟩
  cases h with
  | first ht =>
    unfold joined
    rw [ht]
  | @operand v p op f ht ho =>
    obtain ⟨h, ht⟩ := ht
    generalize hv : skipBlanks v = u at ho
    unfold joined
    rw [ht]
    dsimp only
    cases ho with
    | here hq =>
      split
      · rename_i hv'
        cases hv.symm.trans hv'
      · rename_i c t hv'
        cases hv.symm.trans hv'
        rw [ofChar?_operator.mpr rfl]
        simp only [hq]
    | later hq hs =>
      obtain ⟨h', hq⟩ := hq
      have hs := operands_fails.mpr hs
      split
      · rename_i hv'
        cases hv.symm.trans hv'
      · rename_i c t hv'
        cases hv.symm.trans hv'
        rw [ofChar?_operator.mpr rfl]
        simp only [hq, hs]

/-- Reads what stands in the parentheses of a term. -/
def enclosedRule : (depth : Nat) → Reader Phrase
  | 0 => fun s => .error (.at .nestedTooDeeply s)
  | depth + 1 => rule depth

theorem term_eq (depth : Nat) (s : List Char) :
    term depth s = (termOf (enclosedRule depth) (skipBlanks s)).map
      (Read.ofShorter · (length_skipBlanks s)) := by
  cases depth <;> rfl

theorem term_reads {depth : Nat} {s w : List Char} {p : Phrase} :
    Reads (term depth) s p w ↔ TermReads (enclosedRule depth) (skipBlanks s) p w := by
  rw [← termOf_reads]
  unfold Reads
  rw [term_eq]
  constructor
  · rintro ⟨h, ht⟩
    cases hr : termOf (enclosedRule depth) (skipBlanks s) with
    | error f => rw [hr] at ht; cases ht
    | ok r =>
      rw [hr] at ht
      cases ht
      exact ⟨r.shorter, rfl⟩
  · rintro ⟨h, ht⟩
    rw [ht]
    exact ⟨h.trans_le (length_skipBlanks s), rfl⟩

theorem term_fails {depth : Nat} {s : List Char} {f : Failure} :
    term depth s = .error f ↔ TermFails (enclosedRule depth) (skipBlanks s) f := by
  rw [← termOf_fails, term_eq]
  cases termOf (enclosedRule depth) (skipBlanks s) <;> simp [Except.map]

end Phrase

end Railroad
