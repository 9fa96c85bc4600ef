import Railroad.Proofs.Grammar.Soundness

namespace Railroad

variable {s t m v w y : List Char} {p q : Phrase} {c : Char}

theorem cons_of_append_semicolon (h : t ++ ';' :: y = c :: s) (hc : c ≠ ';') :
    ∃ t', t = c :: t' ∧ s = t' ++ ';' :: y := by
  cases t with
  | nil =>
    cases h
    exact absurd rfl hc
  | cons d t =>
    cases h
    exact ⟨t, rfl, rfl⟩

theorem cons_of_append_left {d : Char} (h : t ++ c :: y = d :: s)
    (hs : (m ++ c :: y).length ≤ s.length) : ∃ t', t = d :: t' ∧ s = t' ++ c :: y := by
  cases t with
  | nil =>
    cases h
    simp only [List.length_append, List.length_cons] at hs
    omega
  | cons e t =>
    cases h
    exact ⟨t, rfl, rfl⟩

theorem append_of_append_cons (h : t ++ c :: y = s ++ (m ++ c :: y)) : t = s ++ m := by
  rw [← List.append_assoc] at h
  exact List.append_cancel_right h

theorem skipBlanks_semicolon (t y : List Char) :
    skipBlanks (t ++ ';' :: y) = skipBlanks t ++ ';' :: y :=
  skipBlanks_append_cons (by decide) t y

theorem head?_append_cons (c : Char) (t y x : List Char) :
    (t ++ c :: y).head? = (t ++ c :: x).head? := by simp

namespace Phrase

/-- The reader takes the same, whatever stands behind a character that it leaves. -/
def Local (R : Reader Phrase) : Prop :=
  ∀ {c t m p y}, isBlank c = false → Reads R (t ++ c :: y) p (m ++ c :: y) →
    ∀ x, Reads R (t ++ c :: x) p (m ++ c :: x)

theorem Closes.suffix (h : Closes q v p w) : ∃ u, v = u ++ w := by
  cases h with
  | @plain x hs hx =>
    obtain ⟨b, -, rfl⟩ := exists_blanks hs
    obtain ⟨b', -, hw⟩ := blanks_before x
    refine ⟨b ++ ')' :: b', ?_⟩
    conv => lhs; rw [hw]
    simp
  | @suffixed x w r hs hx =>
    obtain ⟨b, -, rfl⟩ := exists_blanks hs
    obtain ⟨b', -, rfl⟩ := exists_blanks hx
    exact ⟨b ++ ')' :: (b' ++ [r.char]), by simp⟩

theorem Closes.local (hc : isBlank c = false) (h : Closes q (t ++ c :: y) p (m ++ c :: y))
    (x : List Char) : Closes q (t ++ c :: x) p (m ++ c :: x) := by
  have hskip := skipBlanks_append_cons hc
  generalize hw : m ++ c :: y = w at h
  cases h with
  | @plain z hs hz =>
    rw [hskip] at hs
    have hle := length_skipBlanks z
    rw [← hw] at hle
    obtain ⟨z, ht, rfl⟩ := cons_of_append_left hs hle
    rw [hskip] at hz hw
    have hm := List.append_cancel_right hw
    have hx : skipBlanks (z ++ c :: x) = m ++ c :: x := by rw [hskip, hm]
    rw [← hx]
    refine .plain (by rw [hskip, ht]; rfl) ?_
    rwa [hskip, head?_append_cons c _ x y]
  | @suffixed z w r hs hz =>
    rw [hskip] at hs
    have hle := length_skipBlanks z
    rw [hz, List.length_cons, ← hw] at hle
    obtain ⟨z, ht, rfl⟩ := cons_of_append_left hs (Nat.le_of_succ_le hle)
    rw [hskip, ← hw] at hz
    have hm := append_of_append_cons (s := [r.char]) hz
    have hx : skipBlanks (z ++ c :: x) = r.char :: (m ++ c :: x) := by
      rw [hskip, hm]
      rfl
    exact .suffixed (by rw [hskip, ht]; rfl) hx

theorem TermReads.local {inner : Reader Phrase} (hin : Local inner) (hc : isBlank c = false)
    (h : TermReads inner (t ++ c :: y) p (m ++ c :: y)) (x : List Char) :
    TermReads inner (t ++ c :: x) p (m ++ c :: x) := by
  generalize hs : t ++ c :: y = s at h
  generalize hw : m ++ c :: y = w at h
  cases h with
  | @quoted _ q hq =>
    obtain ⟨hd, hcontent, hn, rfl⟩ := Quoted.of_read? hq
    rw [← hw] at hs
    have ht : t = q.delimiter :: (q.content ++ [q.delimiter]) ++ m :=
      append_of_append_cons (hs.trans (by simp))
    have hr := Quoted.read?_quoted hd hcontent hn (m ++ c :: x)
    rw [show t ++ c :: x = q.delimiter :: (q.content ++ q.delimiter :: (m ++ c :: x)) by
      simp [ht]]
    exact .quoted hr
  | @identifier _ i hi =>
    obtain ⟨hn, rfl, he⟩ := Identifier.of_read? hi
    rw [← hw] at hs he
    have ht := append_of_append_cons hs
    have he' : EndsName (m ++ c :: x) := by
      unfold EndsName
      rwa [head?_append_cons c m x y]
    have hr := Identifier.read?_name hn he'
    rw [ht, List.append_assoc]
    exact .identifier hr
  | underscore =>
    obtain ⟨t, rfl, ht⟩ := cons_of_append_left hs (le_of_eq (congrArg List.length hw))
    rw [List.append_cancel_right (hw.trans ht)]
    exact .underscore
  | @enclosed s v w q p hi hclose =>
    obtain ⟨u, rfl⟩ := hclose.suffix
    have hle : (m ++ c :: y).length ≤ s.length := by
      obtain ⟨hlt, -⟩ := hi
      rw [List.length_append] at hlt
      rw [hw]
      omega
    obtain ⟨t, rfl, rfl⟩ := cons_of_append_left hs hle
    rw [← hw, ← List.append_assoc] at hi hclose
    exact .enclosed (hin hc hi x) (hclose.local hc x)

theorem OperandsRead.local {term : Reader Phrase} {Term : List Char → Phrase → Prop}
    (hsound : Sound term Term) (hterm : Local term) {op : Operator} {ps : List Phrase}
    (hc : isBlank c = false) (h : OperandsRead term op (t ++ c :: y) ps (m ++ c :: y))
    (x : List Char) : OperandsRead term op (t ++ c :: x) ps (m ++ c :: x) := by
  generalize hs : t ++ c :: y = s at h
  generalize hw : m ++ c :: y = w at h
  induction h generalizing t with
  | stop hstop =>
    rw [List.append_cancel_right (hw.trans hs.symm)]
    refine .stop ?_
    rwa [head?_append_cons c t x y, hs]
  | @more s v w p ps hp hmore ih =>
    -- the operands behind this one leave the character, so this one left it too
    obtain ⟨u, b, -, -, hv⟩ := hmore.text hsound blanks_nil
    obtain ⟨b', -, hv'⟩ := exists_blanks hv
    subst hw
    have hle : (m ++ c :: y).length ≤ s.length := by
      obtain ⟨hlt, -⟩ := hp
      simp only [hv', List.length_append] at hlt ⊢
      omega
    obtain ⟨t, rfl, rfl⟩ := cons_of_append_left hs hle
    rw [show b' ++ (u ++ b ++ (m ++ c :: y)) = b' ++ u ++ b ++ m ++ c :: y by simp] at hv'
    rw [hv'] at hp ih
    have hskip := skipBlanks_append_cons hc (b' ++ u ++ b ++ m)
    have hmore := ih (hskip y).symm rfl
    rw [← hskip x] at hmore
    exact .more (hterm hc hp x) hmore

theorem local_joined {term : Reader Phrase} {Term : List Char → Phrase → Prop}
    (hsound : Sound term Term) (hterm : Local term) : Local (joined term) := by
  intro c t m p y hc h x
  have hskip := skipBlanks_append_cons hc
  rw [joined_reads] at h ⊢
  generalize hw : m ++ c :: y = w at h
  cases h with
  | @single v p hp hstop =>
    obtain ⟨b, -, hv⟩ := exists_blanks hw.symm
    rw [← List.append_assoc] at hv
    subst hv
    rw [hskip] at hw hstop
    rw [List.append_cancel_right hw, ← hskip]
    refine .single (hterm hc hp x) ?_
    rwa [hskip, head?_append_cons c _ x y]
  | @level v w p q qs op hp hs =>
    obtain ⟨u, b, -, -, hv⟩ := hs.text hsound blanks_nil
    obtain ⟨b', -, hv'⟩ := exists_blanks hv
    subst hw
    rw [show b' ++ (u ++ b ++ (m ++ c :: y)) = b' ++ u ++ b ++ m ++ c :: y by simp] at hv'
    subst hv'
    rw [hskip] at hs
    have hs := hs.local hsound hterm hc x
    rw [← hskip] at hs
    exact .level (hterm hc hp x) hs

theorem local_term (depth : Nat) : Local (term depth) := by
  have hterm : ∀ d, Local (enclosedRule d) → Local (term d) := by
    intro d hin c t m p y hc h x
    rw [term_reads, skipBlanks_append_cons hc] at h ⊢
    exact h.local hin hc x
  induction depth with
  | zero =>
    apply hterm
    rintro c t m p y - ⟨_, h⟩
    cases h
  | succ d ih =>
    apply hterm
    exact local_joined (sound_term d) ih

theorem local_rule (depth : Nat) : Local (rule depth) :=
  local_joined (sound_term depth) (local_term depth)

end Phrase

end Railroad
