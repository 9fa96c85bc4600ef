import Railroad.Proofs.Grammar.PhraseReading

namespace Railroad

def Operator.node? (op : Operator) (children : List Rule) : Option Rule :=
  match op with
  | sequence => some (.sequence children)
  | choice => Tree.choice? children

namespace Phrase

def prolongs? (met : Option Operator) (c : Char) : Option Operator :=
  (Operator.ofChar? c).filter fun op => met.all (· = op)

def collect (term : Reader Phrase) (met : Option Operator) (s : List Char) :
    Except Failure (List Phrase × Option Operator × List Char) :=
  match term s with
  | .error e => .error e
  | .ok p =>
    match _hrest : skipBlanks p.rest with
    | [] => .ok ([p.value], met, [])
    | c :: r =>
      match prolongs? met c with
      | none => .ok ([p.value], met, c :: r)
      | some op => (collect term (some op) r).map fun (ps, op, w) => (p.value :: ps, op, w)
termination_by s.length
decreasing_by
  have := p.shorter; have := length_skipBlanks p.rest
  simp only [_hrest, List.length_cons] at *; omega

def build? (ps : List Phrase) : Option Operator → Option Phrase
  | none => ps.head?
  | some op => (op.node? (ps.map tree)).map fun t =>
      ⟨t, [op.char].intercalate (ps.map Phrase.literal)⟩

/-- Reads a level in a loop that collects its terms, and makes the node when all of them are
known.  There is no phrase if the terms are too few for their operator. -/
def built (term : Reader Phrase) (s : List Char) :
    Except Failure (Option Phrase × List Char) :=
  (collect term none s).map fun (ps, op, w) => (build? ps op, w)

variable {term : Reader Phrase} {met : Option Operator} {op : Operator} {s v w : List Char}
  {p q : Phrase} {ps : List Phrase} {f : Failure}

theorem prolongs?_eq_some (h : met = none ∨ met = some op) : prolongs? met op.char = some op := by
  rw [prolongs?, ofChar?_operator.mpr rfl]
  rcases h with rfl | rfl <;> simp

theorem prolongs?_none {c : Char} (h : Operator.ofChar? c = none) : prolongs? met c = none := by
  rw [prolongs?, h]
  rfl

theorem prolongs?_ne {c : Char} (h : c ≠ op.char) : prolongs? (some op) c = none := by
  cases hc : Operator.ofChar? c with
  | none => exact prolongs?_none hc
  | some op' =>
    have hne : op ≠ op' := by
      rintro rfl
      exact h (ofChar?_operator.mp hc)
    rw [prolongs?, hc]
    simp [hne]

theorem collect_fails (h : term s = .error f) : collect term met s = .error f := by
  rw [collect, h]

theorem collect_last (ht : Reads term s p v)
    (hv : ∀ c ∈ (skipBlanks v).head?, prolongs? met c = none) :
    collect term met s = .ok ([p], met, skipBlanks v) := by
  obtain ⟨h, ht⟩ := ht
  rw [collect, ht]
  dsimp only
  split
  · rename_i hv'
    rw [hv']
  · rename_i c r hv'
    rw [hv'] at hv
    rw [hv c rfl, hv']

theorem collect_more (ht : Reads term s p v) (hv : skipBlanks v = op.char :: w)
    (hmet : met = none ∨ met = some op) : collect term met s =
      (collect term (some op) w).map fun (ps, op, w) => (p :: ps, op, w) := by
  obtain ⟨h, ht⟩ := ht
  rw [collect, ht]
  dsimp only
  split
  · rename_i hv'
    cases hv.symm.trans hv'
  · rename_i c r hv'
    cases hv.symm.trans hv'
    rw [prolongs?_eq_some hmet]

theorem collect_operands (ht : Reads term s p v) (ho : OperandsRead term op (skipBlanks v) ps w) :
    collect term (some op) s = .ok (p :: ps, some op, w) := by
  generalize hv : skipBlanks v = u at ho
  induction ho generalizing s p v with
  | stop hs =>
    subst hv
    exact collect_last ht fun c hc => prolongs?_ne (hs c hc)
  | more hq _ ih => rw [collect_more ht hv (.inr rfl), ih hq rfl]; rfl

theorem collect_operands_fails (ht : Reads term s p v)
    (ho : OperandsFail term op (skipBlanks v) f) (hmet : met = none ∨ met = some op) :
    collect term met s = .error f := by
  generalize hv : skipBlanks v = u at ho
  induction ho generalizing s p v met with
  | here hq => rw [collect_more ht hv hmet, collect_fails hq]; rfl
  | later hq _ ih => rw [collect_more ht hv hmet, ih hq (.inr rfl) rfl]; rfl

theorem intercalate_literal (p : Phrase) (ps : List Phrase) :
    [op.char].intercalate ((p :: ps).map Phrase.literal) =
      p.literal ++ ps.flatMap fun o => op.char :: o.literal := by
  induction ps generalizing p with
  | nil => simp
  | cons q ps ih => simpa [List.intercalate_cons_cons] using ih q

theorem build?_join (p q : Phrase) (ps : List Phrase) :
    build? (p :: q :: ps) (some op) = some (op.join p q ps) := by
  have hnode : op.node? ((p :: q :: ps).map tree) =
      some (op.node p.tree q.tree (ps.map tree)) := by cases op <;> rfl
  rw [build?, hnode, intercalate_literal]
  rfl

theorem built_reads (h : RuleReads term s p w) : built term s = .ok (some p, w) := by
  cases h with
  | single ht hv =>
    rw [built, collect_last ht fun c hc => prolongs?_none (hv c hc)]
    rfl
  | @level v w p q qs op ht ho =>
    generalize hv : skipBlanks v = u at ho
    cases ho with
    | more hq hs =>
      have hcollect : collect term none s = .ok (p :: q :: qs, some op, w) := by
        rw [collect_more ht hv (.inl rfl), collect_operands hq hs]
        rfl
      rw [built, hcollect, ← build?_join]
      rfl

theorem built_fails (h : RuleFails term s f) : built term s = .error f := by
  have hcollect : collect term none s = .error f := by
    cases h with
    | first ht => exact collect_fails ht
    | operand ht ho => exact collect_operands_fails ht ho (.inl rfl)
  rw [built, hcollect]
  rfl

/-- Whatever is read, the terms of a level are never too few for their operator. -/
theorem built_eq (term : Reader Phrase) (s : List Char) :
    built term s = (joined term s).map fun r => (some r.value, r.rest) := by
  cases h : joined term s with
  | error f => exact built_fails (joined_fails.mp h)
  | ok r => exact built_reads (joined_reads.mp ⟨r.shorter, h⟩)

end Phrase

end Railroad
