import Railroad.Proofs.Grammar.PhraseReading

namespace Railroad

theorem Failure.fault_add (f : Failure) (n length : Nat) : f.fault (n + length) =
    ⟨(f.fault length).kind, (f.fault length).message,
      (f.fault length).position.map (· + (n : Int))⟩ := by
  simp only [fault, offset, Option.map_some, Int.natCast_add, Fault.mk.injEq, true_and,
    Option.some.injEq]
  omega

namespace Statement

open Machine

variable {n : Nat} {s w : List Char} {f : Failure}

theorem terminator_reads {u : Unit} :
    Reads terminator s u w ↔ ∃ t, skipBlanks s = ';' :: t ∧ w = skipBlanks t := by
  unfold Reads terminator
  constructor
  · rintro ⟨h, ht⟩
    split at ht
    · rename_i t hs
      cases ht
      exact ⟨t, hs, rfl⟩
    · cases ht
  · rintro ⟨t, hs, rfl⟩
    have hw : (skipBlanks t).length < s.length := by
      have := length_skipBlanks t
      have hs' := length_skipBlanks s
      rw [hs, List.length_cons] at hs'
      omega
    refine ⟨hw, ?_⟩
    split
    · rename_i t' hs'
      cases hs.symm.trans hs'
      rfl
    · rename_i hne
      exact absurd hs (hne t)

theorem terminator_fails : terminator s = .error f ↔
    (∀ t, skipBlanks s ≠ ';' :: t) ∧ f = .at .terminatorExpected (skipBlanks s) := by
  unfold terminator
  split
  · rename_i t hs
    exact ⟨fun h => (nomatch h), fun h => absurd hs (h.1 t)⟩
  · rename_i hne
    exact ⟨fun h => ⟨hne, by cases h; rfl⟩, fun h => by rw [h.2]⟩

variable [Machine]

theorem body_reads {p : Phrase} :
    Reads body s p w ↔ Reads (Phrase.rule nestingLimit) s p w := by
  unfold Reads body
  constructor
  · rintro ⟨h, hb⟩
    split at hb
    · cases hb
    · exact ⟨h, hb⟩
  · rintro ⟨h, hb⟩
    exact ⟨h, by rw [hb]⟩

/-- A rule that nests too deeply is refused where it starts. -/
theorem body_fails : body s = .error f ↔ ∃ g, Phrase.rule nestingLimit s = .error g ∧
    f = if g.cause = .nestedTooDeeply then .at .nestedTooDeeply s else g := by
  unfold body
  split
  · rename_i k h
    constructor
    · intro he
      cases he
      exact ⟨_, h, rfl⟩
    · rintro ⟨g, hg, rfl⟩
      cases h.symm.trans hg
      rfl
  · rename_i hne
    constructor
    · intro he
      refine ⟨f, he, ?_⟩
      rw [if_neg]
      rintro hc
      exact hne f.remaining (by rw [he, ← hc])
    · rintro ⟨g, hg, rfl⟩
      rw [if_neg, hg]
      rintro hc
      exact hne g.remaining (by rw [hg, ← hc])

inductive StatementReads (n : Nat) : List Char → Statement → List Char → Prop
  | intro {s t w : List Char} {i : Identifier} {p : Phrase}
      (hi : Identifier.read? (skipBlanks s) = some i) (ht : skipBlanks i.rest = '=' :: t)
      (hb : Reads body (skipBlanks t) p w) :
      StatementReads n s ⟨String.ofList i.name, p.tree, String.ofList p.literal,
        offset n (skipBlanks s).length⟩ w

/-- How no statement is read.  This does not depend on the source around it. -/
inductive StatementFails : List Char → Failure → Prop
  | symbol {s : List Char} (hi : Identifier.read? (skipBlanks s) = none) :
      StatementFails s (.at .symbolExpected (skipBlanks s))
  | equals {s : List Char} {i : Identifier} (hi : Identifier.read? (skipBlanks s) = some i)
      (ht : ∀ t, skipBlanks i.rest ≠ '=' :: t) :
      StatementFails s (.at .equalsExpected (skipBlanks i.rest))
  | body {s t : List Char} {i : Identifier} {f : Failure}
      (hi : Identifier.read? (skipBlanks s) = some i) (ht : skipBlanks i.rest = '=' :: t)
      (hb : body (skipBlanks t) = .error f) : StatementFails s f

theorem read_spec {x : Except Failure (Read Statement s)} (h : read n s = x) :
    match x with
    | .ok st => StatementReads n s st.value st.rest
    | .error f => StatementFails s f := by
  unfold read at h
  split at h
  · rename_i hi
    subst h
    exact .symbol hi
  · rename_i i hi
    split at h
    · rename_i t ht
      split at h
      · rename_i hb
        subst h
        exact .body hi ht hb
      · rename_i p hb
        subst h
        exact .intro hi ht ⟨p.shorter, hb⟩
    · rename_i hne
      subst h
      exact .equals hi hne

theorem read_reads {st : Statement} : Reads (read n) s st w ↔ StatementReads n s st w := by
  refine ⟨fun ⟨_, h⟩ => read_spec h, fun h => ?_⟩
  cases h with
  | @intro t w i p hi ht hb =>
    obtain ⟨h, hb⟩ := hb
    have hw : w.length < s.length := by
      have := length_skipBlanks s
      have := Identifier.length_rest hi
      have := length_skipBlanks t
      have hi' := length_skipBlanks i.rest
      rw [ht, List.length_cons] at hi'
      omega
    refine ⟨hw, ?_⟩
    unfold read
    split
    · rename_i hi'
      cases hi.symm.trans hi'
    · rename_i i' hi'
      cases hi.symm.trans hi'
      split
      · rename_i t' ht'
        cases ht.symm.trans ht'
        rw [hb]
      · rename_i hne
        exact absurd ht (hne t)

theorem read_fails : read n s = .error f ↔ StatementFails s f := by
  refine ⟨read_spec, fun h => ?_⟩
  unfold read
  cases h with
  | symbol hi =>
    split
    · rfl
    · rename_i hi'
      cases hi.symm.trans hi'
  | @equals i hi hne =>
    split
    · rename_i hi'
      cases hi.symm.trans hi'
    · rename_i i' hi'
      cases hi.symm.trans hi'
      split
      · rename_i t ht
        exact absurd ht (hne t)
      · rfl
  | body hi ht hb =>
    split
    · rename_i hi'
      cases hi.symm.trans hi'
    · rename_i i' hi'
      cases hi.symm.trans hi'
      split
      · rename_i t' ht'
        cases ht.symm.trans ht'
        rw [hb]
      · rename_i hne
        exact absurd ht (hne _)

theorem read_reads_elsewhere {st : Statement} (h : Reads (read n) s st w) (m : Nat) :
    ∃ st', Reads (read m) s st' w ∧ st'.symbol = st.symbol ∧ st'.rule = st.rule ∧
      st'.literal = st.literal := by
  cases read_reads.mp h with
  | intro hi ht hb => exact ⟨_, read_reads.mpr (.intro hi ht hb), rfl, rfl, rfl⟩

theorem readTerminated_reads {st : Statement} : Reads (readTerminated n) s st w ↔
    ∃ v, Reads (read n) s st v ∧ Reads terminator v () w := by
  constructor
  · rintro ⟨h, hr⟩
    unfold readTerminated at hr
    split at hr
    · cases hr
    · rename_i r hs
      split at hr
      · cases hr
      · rename_i t ht
        cases hr
        exact ⟨r.rest, ⟨r.shorter, hs⟩, t.shorter, ht⟩
  · rintro ⟨v, ⟨h, hs⟩, h', ht⟩
    refine ⟨h'.trans h, ?_⟩
    unfold readTerminated
    rw [hs]
    simp only [ht]

theorem readTerminated_fails : readTerminated n s = .error f ↔
    read n s = .error f ∨ ∃ st v, Reads (read n) s st v ∧ terminator v = .error f := by
  unfold readTerminated
  constructor
  · intro hr
    split at hr
    · rename_i hs
      cases hr
      exact .inl hs
    · rename_i r hs
      split at hr
      · rename_i ht
        cases hr
        exact .inr ⟨r.value, r.rest, ⟨r.shorter, hs⟩, ht⟩
      · cases hr
  · rintro (hs | ⟨st, v, ⟨h, hs⟩, ht⟩)
    · rw [hs]
    · rw [hs]
      simp only [ht]

/-- The statements that are read in a row, and the failure that ends them, if one does. -/
inductive RowReads (n : Nat) : List Char → List Statement → Option Failure → Prop
  | done : RowReads n [] [] none
  | fail {c : Char} {s : List Char} {f : Failure} (hf : readTerminated n (c :: s) = .error f) :
      RowReads n (c :: s) [] (some f)
  | more {c : Char} {s w : List Char} {st : Statement} {sts : List Statement}
      {stop : Option Failure} (hr : Reads (readTerminated n) (c :: s) st w)
      (hs : RowReads n w sts stop) : RowReads n (c :: s) (st :: sts) stop

theorem readAll_eq {sts : List Statement} {stop : Option Failure} :
    readAll n s = (sts, stop) ↔ RowReads n s sts stop := by
  constructor
  · intro h
    fun_induction readAll n s generalizing sts with
    | case1 =>
      cases h
      exact .done
    | case2 c s e he =>
      cases h
      exact .fail he
    | case3 c s r hr sts' e hs ih =>
      cases h
      exact .more ⟨r.shorter, hr⟩ (ih hs)
  · intro h
    induction h with
    | done => rw [readAll]
    | fail hf => rw [readAll, hf]
    | more hr _ ih =>
      obtain ⟨h, hr⟩ := hr
      rw [readAll, hr]
      simp only [ih]

end Statement

end Railroad
