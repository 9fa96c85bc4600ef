import Railroad.Proofs.Grammar.StatementReading

namespace Railroad

namespace Phrase

/-- The reader takes texts of `Text`, with blanks around them. -/
def Sound (R : Reader Phrase) (Text : List Char → Phrase → Prop) : Prop :=
  ∀ {s p w}, Reads R s p w →
    ∃ b t b', Blanks b ∧ Text t p ∧ Blanks b' ∧ s = b ++ t ++ b' ++ w

variable {s w : List Char} {p : Phrase}

theorem TermReads.text {inner : Reader Phrase} {Inner : List Char → Phrase → Prop}
    (hin : Sound inner Inner) (h : TermReads inner s p w) :
    ∃ t b, TermTextOf Inner t p ∧ Blanks b ∧ s = t ++ b ++ w := by
  cases h with
  | quoted hq =>
    obtain ⟨hd, hc, hn, rfl⟩ := Quoted.of_read? hq
    exact ⟨_, [], .quoted hd hc hn, blanks_nil, by simp⟩
  | identifier hi =>
    obtain ⟨hn, rfl, -⟩ := Identifier.of_read? hi
    exact ⟨_, [], .identifier hn, blanks_nil, by simp⟩
  | underscore => exact ⟨_, [], .underscore, blanks_nil, rfl⟩
  | @enclosed s v w q p hi hc =>
    obtain ⟨b, t, b', hb, ht, hb', rfl⟩ := hin hi
    cases hc with
    | @plain x hs hx =>
      obtain ⟨b₁, hb₁, rfl⟩ := exists_blanks hs
      obtain ⟨b₂, hb₂, hw⟩ := blanks_before x
      refine ⟨_, b₂, .enclosed hb ht (hb'.append hb₁), hb₂, ?_⟩
      conv => lhs; rw [hw]
      simp
    | @suffixed x w r hs hx =>
      obtain ⟨b₁, hb₁, rfl⟩ := exists_blanks hs
      obtain ⟨b₂, hb₂, rfl⟩ := exists_blanks hx
      rw [repeated_eq]
      have hx : SuffixTree q.tree r.char (r.node q.tree) := suffixTree_iff.mpr ⟨r, rfl, rfl⟩
      exact ⟨_, [], .suffixed hb ht (hb'.append hb₁) hb₂ hx, blanks_nil, by simp⟩

theorem OperandsRead.text {term : Reader Phrase} {Term : List Char → Phrase → Prop}
    (hterm : Sound term Term) {op : Operator} {ps : List Phrase}
    (h : OperandsRead term op s ps w) {b : List Char} (hb : Blanks b) :
    ∃ t b', OperandsText Term op.char t ps ∧ Blanks b' ∧ b ++ s = t ++ b' ++ w := by
  induction h generalizing b with
  | stop hs => exact ⟨[], b, .nil, hb, rfl⟩
  | @more s v w p ps ht hs ih =>
    obtain ⟨b₁, t, b₂, hb₁, htext, hb₂, rfl⟩ := hterm ht
    obtain ⟨b₃, hb₃, hv⟩ := blanks_before v
    obtain ⟨t', b', ht', hb', hs⟩ := ih (hb₂.append hb₃)
    refine ⟨_, b', .cons hb hb₁ htext ht', hb', ?_⟩
    conv => lhs; rw [hv]
    simp only [List.append_assoc, List.cons_append] at hs ⊢
    rw [hs]

theorem RuleReads.text {term : Reader Phrase} {Term : List Char → Phrase → Prop}
    (hterm : Sound term Term) (h : RuleReads term s p w) :
    ∃ b t b', Blanks b ∧ RuleTextOf Term t p ∧ Blanks b' ∧ s = b ++ t ++ b' ++ w := by
  cases h with
  | @single v p ht hv =>
    obtain ⟨b, t, b', hb, htext, hb', rfl⟩ := hterm ht
    obtain ⟨b₁, hb₁, hv⟩ := blanks_before v
    refine ⟨b, t, b' ++ b₁, hb, .single htext, hb'.append hb₁, ?_⟩
    conv => lhs; rw [hv]
    simp
  | @level v w p q qs op ht ho =>
    obtain ⟨b, t, b', hb, htext, hb', rfl⟩ := hterm ht
    obtain ⟨b₁, hb₁, hv⟩ := blanks_before v
    obtain ⟨t', b₂, ht', hb₂, hs⟩ := ho.text hterm (hb'.append hb₁)
    refine ⟨b, t ++ t', b₂, hb, .level htext ht' (levelTree_iff.mpr ⟨op, rfl, rfl⟩), hb₂, ?_⟩
    conv => lhs; rw [hv]
    simp only [List.append_assoc] at hs ⊢
    rw [hs]

theorem sound_term (depth : Nat) : Sound (term depth) (TermText depth) := by
  have hterm : ∀ d Inner, Sound (enclosedRule d) Inner → Sound (term d) (TermTextOf Inner) := by
    intro d Inner hin s p w h
    obtain ⟨t, b', ht, hb', hs⟩ := (term_reads.mp h).text hin
    obtain ⟨b, hb, rfl⟩ := exists_blanks hs
    exact ⟨b, t, b', hb, ht, hb', by simp⟩
  induction depth with
  | zero =>
    apply hterm
    rintro s p w ⟨_, h⟩
    cases h
  | succ d ih =>
    apply hterm
    intro s p w h
    exact (joined_reads.mp h).text ih

theorem sound_rule (depth : Nat) : Sound (rule depth) (RuleText depth) := fun h =>
  (joined_reads.mp h).text (sound_term depth)

end Phrase

namespace Statement

open Machine

variable [Machine] {n : Nat} {s w : List Char}

theorem read_text {st : Statement} (h : Reads (read n) s st w) :
    ∃ t b name p, StatementText nestingLimit t name p ∧ Blanks b ∧
      skipBlanks s = t ++ b ++ w ∧ st = ⟨String.ofList name, p.tree, String.ofList p.literal,
        offset n (skipBlanks s).length⟩ := by
  cases read_reads.mp h with
  | @intro t w i p hi ht hb =>
    obtain ⟨hn, hs, -⟩ := Identifier.of_read? hi
    obtain ⟨b₁, hb₁, hr⟩ := exists_blanks ht
    obtain ⟨b₂, t₂, b₃, hb₂, ht₂, hb₃, hs₂⟩ := Phrase.sound_rule nestingLimit (body_reads.mp hb)
    obtain ⟨b₀, hb₀, rfl⟩ := exists_blanks hs₂
    refine ⟨_, b₃, i.name, p, .intro hn hb₁ (hb₀.append hb₂) ht₂, hb₃, ?_, rfl⟩
    rw [hs, hr]
    simp

theorem row_split {start : Nat} {sts : List Statement} {stop : Option Failure}
    (h : RowReads n s sts stop) (hs : skipBlanks s = s) (hn : start + s.length = n) :
    ∃ t w, s = t ++ w ∧ StatementsText nestingLimit start t sts ∧ skipBlanks w = w ∧
      RowReads n w [] stop := by
  induction h generalizing start with
  | done => exact ⟨[], [], rfl, .nil, rfl, .done⟩
  | fail hf => exact ⟨[], _, rfl, .nil, hs, .fail hf⟩
  | @more c s w st sts stop hr _ ih =>
    obtain ⟨v, hv, ht⟩ := readTerminated_reads.mp hr
    obtain ⟨t, b, name, p, htext, hb, hsplit, rfl⟩ := read_text hv
    obtain ⟨u, hu, rfl⟩ := terminator_reads.mp ht
    obtain ⟨b₁, hb₁, rfl⟩ := exists_blanks hu
    obtain ⟨b₂, hb₂, hw⟩ := blanks_before u
    have hcs : c :: s = t ++ (b ++ b₁) ++ ';' :: (b₂ ++ skipBlanks u) := by
      rw [← hs, hsplit]
      conv => lhs; rw [hw]
      simp
    have hoffset : offset n (skipBlanks (c :: s)).length = start := by
      rw [hs]
      simp only [offset]
      omega
    have hrest : start + (t ++ (b ++ b₁) ++ ';' :: b₂).length + (skipBlanks u).length = n := by
      rw [hcs] at hn
      simp only [List.length_append, List.length_cons] at hn ⊢
      omega
    obtain ⟨t', w', hsplit', htext', hw', hrow⟩ := ih (skipBlanks_skipBlanks u) hrest
    refine ⟨t ++ (b ++ b₁) ++ ';' :: (b₂ ++ t'), w', ?_, ?_, hw', hrow⟩
    · rw [hcs, hsplit']
      simp
    · rw [hoffset]
      exact .cons htext (hb.append hb₁) hb₂ htext'

theorem row_text {start : Nat} {sts : List Statement} (h : RowReads n s sts none)
    (hs : skipBlanks s = s) (hn : start + s.length = n) :
    StatementsText nestingLimit start s sts := by
  obtain ⟨t, w, rfl, htext, -, hrow⟩ := row_split h hs hn
  cases hrow with
  | done => rwa [List.append_nil]

end Statement

end Railroad
