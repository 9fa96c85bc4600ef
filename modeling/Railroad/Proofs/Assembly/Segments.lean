import Railroad.Proofs.Assembly.Turns
import Railroad.Proofs.Recovery.Progress

namespace Railroad

open Statement

variable {α : Type} [Scalar α] {engine : Engine α} {source s w : List Char} {o : Outcome α}
  {ts : List (Turn α)} {f : Failure}

theorem length_ofOutcomes (os : List (Outcome α)) :
    (Report.ofOutcomes os).diagrams.length + (Report.ofOutcomes os).errors.length = os.length := by
  induction os with
  | nil => rfl
  | cons o os ih =>
    simp only [Report.ofOutcomes, List.filterMap_cons, List.length_cons] at ih ⊢
    cases o <;> simp only [Outcome.diagram?, Outcome.diagnostic?, List.length_cons] <;> omega

variable [Machine]

def Turn.failure? (source : List Char) (t : Turn α) : Option Failure :=
  match readTerminated source.length t.start with
  | .error f => some f
  | .ok _ => none

theorem Turn.failure?_eq_some {t : Turn α} :
    t.failure? source = some f ↔ readTerminated source.length t.start = .error f := by
  unfold failure?
  cases readTerminated source.length t.start <;> simp

theorem Turn.failure?_eq_none {t : Turn α} : t.failure? source = none ↔
    ∃ st w, Reads (readTerminated source.length) t.start st w := by
  unfold failure?
  rcases reads_or_error (readTerminated source.length) t.start with ⟨st, w, h⟩ | ⟨f, hf⟩
  · obtain ⟨hlt, hr⟩ := h
    simp only [hr, true_iff]
    exact ⟨st, w, hlt, hr⟩
  · simp only [hf, reduceCtorEq, false_iff]
    rintro ⟨st, w, hlt, hr⟩
    cases hf.symm.trans hr

/-- The turns take a text from its start to its end, each from where the one before it stopped. -/
def Turn.Cover : List Char → List (Turn α) → Prop
  | s, [] => s = []
  | s, t :: ts => t.start = s ∧ Cover t.next ts

/-- What a turn of a run that skips does with its part of the source. -/
structure Turn.Segment (engine : Engine α) (source : List Char) (t : Turn α) : Prop where
  start_ne_nil : t.start ≠ []
  start_suffix : t.start <:+ source
  next_suffix : t.next <:+ t.start
  shorter : t.next.length < t.start.length
  contributes_one : (Report.ofOutcomes [t.outcome]).diagrams.length +
    (Report.ofOutcomes [t.outcome]).errors.length = 1
  unread : ∀ f, t.failure? source = some f →
    (∃ symbol, t.outcome = .failed ((f.fault source.length).diagnose source symbol)) ∧
      offset source.length t.start.length ≤ offset source.length f.remaining ∧
      (offset source.length f.remaining < offset source.length t.next.length ∨
        t.next = [] ∧ offset source.length f.remaining = source.length)
  read : t.failure? source = none → (∃ d, t.outcome = .drawn d) ∨
    ∃ rule fault symbol, engine rule = .error fault ∧
      t.outcome = .failed (fault.diagnose source symbol)

theorem Engine.Takes.of_readTerminated_fails (h : engine.Takes source s o w)
    (hf : readTerminated source.length s = .error f) : w = skipStatement s ∧
      ∃ symbol, o = .failed ((f.fault source.length).diagnose source symbol) := by
  have hreads : ∀ {st v}, Reads (Statement.read source.length) s st v →
      ¬Reads terminator v () w := by
    intro st v hr ht
    obtain ⟨_, h⟩ := readTerminated_reads.mpr ⟨v, hr, ht⟩
    cases hf.symm.trans h
  cases h with
  | unread hr =>
    cases hf.symm.trans (readTerminated_fails.mpr (.inl hr))
    exact ⟨rfl, none, rfl⟩
  | unterminated hr ht =>
    cases hf.symm.trans (readTerminated_fails.mpr (.inr ⟨_, _, hr, ht⟩))
    exact ⟨rfl, some _, rfl⟩
  | undrawn hr ht => exact absurd ht (hreads hr)
  | drawn hr ht => exact absurd ht (hreads hr)

theorem Engine.Takes.of_readTerminated {st : Statement} {v : List Char}
    (h : engine.Takes source s o w) (hr : Reads (readTerminated source.length) s st v) :
    (∃ d, o = .drawn d) ∨ ∃ rule fault symbol, engine rule = .error fault ∧
      o = .failed (fault.diagnose source symbol) := by
  obtain ⟨_, hr⟩ := hr
  cases h with
  | unread hf => cases hr.symm.trans (readTerminated_fails.mpr (.inl hf))
  | unterminated hs hf => cases hr.symm.trans (readTerminated_fails.mpr (.inr ⟨_, _, hs, hf⟩))
  | undrawn _ _ he => exact .inr ⟨_, _, _, he, rfl⟩
  | drawn => exact .inl ⟨_, rfl⟩

theorem Engine.Takes.progress (h : engine.Takes source s o w) (hs : skipBlanks s = s) :
    w <:+ s ∧ skipBlanks w = w ∧ (w = [] ∨ w.count ';' < s.count ';') := by
  have hskip : skipStatement s <:+ s ∧ skipBlanks (skipStatement s) = skipStatement s ∧
      (skipStatement s = [] ∨ (skipStatement s).count ';' < s.count ';') :=
    ⟨skipStatementFrom_suffix none s, skipBlanks_skipStatementFrom none s,
      count_skipStatementFrom none s⟩
  have hread : ∀ {st v}, Reads (Statement.read source.length) s st v → Reads terminator v () w →
      w <:+ s ∧ skipBlanks w = w ∧ (w = [] ∨ w.count ';' < s.count ';') := by
    intro st v hr ht
    obtain ⟨t, b, name, p, -, -, hsplit, -⟩ := read_text hr
    obtain ⟨x, hx, rfl⟩ := terminator_reads.mp ht
    obtain ⟨b', -, rfl⟩ := exists_blanks hx
    rw [hs] at hsplit
    have hx : x <:+ s := ⟨t ++ b ++ b' ++ [';'], by rw [hsplit]; simp⟩
    have hle := (skipBlanks_suffix x).sublist.count_le ';'
    refine ⟨(skipBlanks_suffix x).trans hx, skipBlanks_skipBlanks x, .inr ?_⟩
    rw [hsplit]
    simp only [List.count_append, List.count_cons_self]
    omega
  cases h with
  | unread => exact hskip
  | unterminated => exact hskip
  | undrawn hr ht => exact hread hr ht
  | drawn hr ht => exact hread hr ht

/-- A turn whose statement is not read goes on behind the failure, or the text ends there. -/
theorem Engine.Takes.past_failure (h : engine.Takes source s o w) (hs : skipBlanks s = s)
    (hf : readTerminated source.length s = .error f) : f.remaining ≤ s.length ∧
      (w.length < f.remaining ∨ w = [] ∧ f.remaining = 0) := by
  obtain ⟨rfl, -⟩ := h.of_readTerminated_fails hf
  obtain ⟨u, v, rfl, -, hbroken⟩ := brokenStatement_of_fails hf hs
  obtain ⟨last, hscan⟩ := hbroken.scans
  have hremaining : f.remaining = v.length := congrArg Failure.remaining hbroken.eq_at
  have hlen := hscan.length_skipStatement v
  rw [hremaining, List.length_append]
  refine ⟨Nat.le_add_left _ _, ?_⟩
  cases v with
  | nil => exact .inr ⟨List.eq_nil_of_length_eq_zero (by simpa using hlen), rfl⟩
  | cons c v =>
    simp only [List.length_cons] at hlen ⊢
    exact .inl (by omega)

namespace Engine

inductive SkipRun (engine : Engine α) (source : List Char) : List Char → List (Turn α) → Prop
  | done : SkipRun engine source [] []
  | turn {s w : List Char} {o : Outcome α} {ts : List (Turn α)} (hs : s ≠ [])
      (hblank : skipBlanks s = s) (ht : engine.Takes source s o w)
      (hts : SkipRun engine source w ts) : SkipRun engine source s (⟨s, o, w⟩ :: ts)

theorem skipRun_turns (engine : Engine α) (source : List Char) {s : List Char}
    (hs : skipBlanks s = s) : engine.SkipRun source s (engine.turns .skip source s) := by
  -- every turn leaves a shorter text
  induction hn : s.length using Nat.strong_induction_on generalizing s with
  | _ n ih =>
    cases s with
    | nil =>
      rw [turns.eq_def]
      exact .done
    | cons c s =>
      have ht := takes_turn engine source (c :: s)
      have hlt := ht.shorter (List.cons_ne_nil c s)
      have hrest := ih _ (hn ▸ hlt) (ht.progress hs).2.1 rfl
      have hrun := SkipRun.turn (List.cons_ne_nil c s) hs ht hrest
      have hstart : (engine.turn source (c :: s)).start = c :: s := by
        rw [turn_eq.mpr ht]
      have hturns : engine.turns .skip source (c :: s) = engine.turn source (c :: s) ::
          engine.turns .skip source (engine.turn source (c :: s)).next := by
        rw [turns.eq_def]
        dsimp only
        split
        · rename_i h
          cases h
        · rfl
      rw [hturns]
      rwa [← turn_eq.mpr ht] at hrun

theorem SkipRun.cover (h : engine.SkipRun source s ts) : Turn.Cover s ts := by
  induction h with
  | done => rfl
  | turn _ _ _ _ ih => exact ⟨rfl, ih⟩

theorem SkipRun.segment (h : engine.SkipRun source s ts) (hs : s <:+ source) :
    ∀ t ∈ ts, t.Segment engine source := by
  induction h with
  | done => simp
  | @turn s w o ts hne hblank ht _ ih =>
    obtain ⟨hsuffix, -, -⟩ := ht.progress hblank
    intro t hmem
    rcases List.mem_cons.mp hmem with rfl | hmem
    · refine ⟨hne, hs, hsuffix, ht.shorter hne, ?_, ?_, ?_⟩
      · cases o <;> rfl
      · intro f hf
        have hf := Turn.failure?_eq_some.mp hf
        obtain ⟨hle, hpast⟩ := ht.past_failure hblank hf
        refine ⟨(ht.of_readTerminated_fails hf).2, ?_, ?_⟩
        · simp only [offset]
          omega
        · rcases hpast with hlt | ⟨hw, h0⟩
          · simp only [offset]
            exact .inl (by omega)
          · simp only [offset, h0]
            exact .inr ⟨hw, by omega⟩
      · intro hf
        obtain ⟨st, v, hr⟩ := Turn.failure?_eq_none.mp hf
        exact ht.of_readTerminated hr
    · exact ih (hsuffix.trans hs) t hmem

def failurePositions (source : List Char) (ts : List (Turn α)) : List Int :=
  ts.filterMap fun t => (t.failure? source).bind fun _ =>
    t.outcome.diagnostic?.bind fun d => d.fault.position

theorem failurePositions_read {t : Turn α} (hf : t.failure? source = none) (ts : List (Turn α)) :
    failurePositions source (t :: ts) = failurePositions source ts := by
  rw [failurePositions, List.filterMap_cons, hf]
  rfl

theorem failurePositions_unread {t : Turn α} {symbol : Option String}
    (hf : t.failure? source = some f)
    (ho : t.outcome = .failed ((f.fault source.length).diagnose source symbol))
    (ts : List (Turn α)) : failurePositions source (t :: ts) =
      offset source.length f.remaining :: failurePositions source ts := by
  rw [failurePositions, List.filterMap_cons, hf, ho]
  rfl

theorem SkipRun.positions (h : engine.SkipRun source s ts) :
    (∀ p ∈ failurePositions source ts, offset source.length s.length ≤ p) ∧
      (failurePositions source ts).Pairwise (· < ·) := by
  induction h with
  | done => simp [failurePositions]
  | @turn s w o ts hne hblank ht hts ih =>
    have hlt := ht.shorter hne
    obtain ⟨hle, hpairs⟩ := ih
    have hlater : ∀ p ∈ failurePositions source ts, offset source.length s.length ≤ p := by
      intro p hp
      have := hle p hp
      simp only [offset] at this ⊢
      omega
    cases hf : (Turn.mk s o w).failure? source with
    | none =>
      rw [failurePositions_read hf]
      exact ⟨hlater, hpairs⟩
    | some f =>
      have hfails := Turn.failure?_eq_some.mp hf
      obtain ⟨hstart, hpast⟩ := ht.past_failure hblank hfails
      obtain ⟨-, symbol, ho⟩ := ht.of_readTerminated_fails hfails
      rw [failurePositions_unread hf ho]
      refine ⟨?_, List.pairwise_cons.mpr ⟨fun p hp => ?_, hpairs⟩⟩
      · intro p hp
        rcases List.mem_cons.mp hp with rfl | hp
        · simp only [offset]
          omega
        · exact hlater p hp
      · rcases hpast with hlt | ⟨rfl, -⟩
        · have := hle p hp
          simp only [offset] at this ⊢
          omega
        · cases hts with
          | done => simp [failurePositions] at hp
          | turn hne => exact absurd rfl hne

theorem SkipRun.length_le (h : engine.SkipRun source s ts) : ts.length ≤ s.count ';' + 1 := by
  induction h with
  | done => exact Nat.zero_le _
  | turn _ hblank ht hts ih =>
    obtain ⟨-, -, hcount⟩ := ht.progress hblank
    rw [List.length_cons]
    rcases hcount with rfl | hcount
    · cases hts with
      | done => simp
      | turn hne => exact absurd rfl hne
    · omega

end Engine

/-- A run that skips bad statements takes the text to its end.  Its turns cut the text into
segments, each of which contributes one diagram or one error; what is wrong with a statement is
reported inside the segment of the statement, or at the end of the text in the last one.  So the
positions of these errors increase, and there are no more diagrams and errors than semicolons and
one. -/
theorem assemble_skip_segments (engine : Engine α) (source : List Char) (c : Gallery α) :
    let ts := engine.turns .skip source (skipBlanks source)
    let report := (c.assemble .skip engine source).1
    report = .ofOutcomes (ts.map Turn.outcome) ∧ Turn.Cover (skipBlanks source) ts ∧
      (∀ t ∈ ts, t.Segment engine source) ∧ (Engine.failurePositions source ts).Pairwise (· < ·) ∧
      report.diagrams.length + report.errors.length ≤ source.count ';' + 1 := by
  have hrun := engine.skipRun_turns source (skipBlanks_skipBlanks source)
  have hcount := (skipBlanks_suffix source).sublist.count_le ';'
  refine ⟨rfl, hrun.cover, hrun.segment (skipBlanks_suffix source), hrun.positions.2, ?_⟩
  have hlen := hrun.length_le
  simp only [Gallery.assemble, Engine.run]
  rw [length_ofOutcomes, List.length_map]
  omega

omit [Machine] in
theorem assemble_skip_segments_unread :
    letI : Machine := ⟨0⟩
    let engine : Engine Float := fun _ => .error ⟨.structural, "not drawn", none⟩
    let source := "a=;b=c;d".toList
    let t : Turn Float := ⟨source, .failed (Fault.diagnose ⟨.syntactic, "syntax error", some 2⟩
      source none), "b=c;d".toList⟩
    t ∈ engine.turns .skip source source ∧ t.failure? source = some ⟨.noTerm, 6⟩ ∧
      (offset 8 8 ≤ 2 ∧ 2 < offset 8 5) ∧
      (Engine.failurePositions source (engine.turns .skip source source)).Pairwise (· < ·) ∧
      Engine.failurePositions source (engine.turns .skip source source) = [2, 8] := by
  let _ : Machine := ⟨0⟩
  intro engine source t
  have hturns : engine.turns .skip source source = t :: engine.turns .skip source t.next := by
    with_unfolding_all rfl
  have hmem : t ∈ engine.turns .skip source source := by
    rw [hturns]
    exact List.mem_cons_self
  have hfails : t.failure? source = some ⟨.noTerm, 6⟩ := by with_unfolding_all rfl
  obtain ⟨-, -, hsegment, hpairs, -⟩ := assemble_skip_segments engine source {}
  obtain ⟨-, hle, hlt | ⟨hnil, -⟩⟩ := (hsegment t hmem).unread _ hfails
  · exact ⟨hmem, hfails, ⟨hle, hlt⟩, hpairs, by with_unfolding_all rfl⟩
  · cases hnil

end Railroad
