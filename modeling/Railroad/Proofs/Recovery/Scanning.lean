import Railroad.Proofs.Grammar.Token
import Railroad.Statement.Recovery

namespace Railroad

variable {prev mid last : Option Char} {t u : List Char}

/-- A scan that comes from `prev` passes the whole text without an end of statement, closes in it
every quote that it opens in it, and goes on from `last`. -/
inductive Scans : Option Char → List Char → Option Char → Prop
  | nil {prev : Option Char} : Scans prev [] prev
  | plain {prev last : Option Char} {c : Char} {t : List Char} (hc : c ≠ ';')
      (hq : opensQuote prev c = false) (ht : Scans (lastInk prev c) t last) :
      Scans prev (c :: t) last
  | quoted {prev last : Option Char} {q : Char} {content t : List Char}
      (hq : opensQuote prev q) (hn : q ∉ content) (ht : Scans (some q) t last) :
      Scans prev (q :: (content ++ q :: t)) last

/-- The text is closed in itself: scanned from its start, it has no end of statement and no quote
that is left open. -/
def SelfContained (t : List Char) : Prop := ∃ last, Scans none t last

theorem Scans.append (h : Scans prev t mid) (h' : Scans mid u last) : Scans prev (t ++ u) last := by
  induction h with
  | nil => exact h'
  | plain hc hq _ ih => exact .plain hc hq (ih h')
  | @quoted _ _ q content t hq hn _ ih =>
    rw [show q :: (content ++ q :: t) ++ u = q :: (content ++ q :: (t ++ u)) by simp]
    exact .quoted hq hn (ih h')

theorem behindQuote_append {q : Char} {content : List Char} (hn : q ∉ content) (s : List Char) :
    behindQuote q (content ++ q :: s) = s := by
  have hall : ∀ c ∈ content, decide (c ≠ q) = true := fun c hc =>
    decide_eq_true fun he => hn (he ▸ hc)
  rw [behindQuote, List.dropWhile_append_of_pos hall, List.dropWhile_cons_of_neg (by simp)]

theorem opensQuote_ne_semicolon {q : Char} (h : opensQuote prev q) : q ≠ ';' := by
  rintro rfl
  simp [opensQuote, isQuote] at h

theorem Scans.skipStatementFrom (h : Scans prev t last) (s : List Char) :
    skipStatementFrom prev (t ++ s) = skipStatementFrom last s := by
  induction h with
  | nil => rfl
  | plain hc hq _ ih =>
    rw [List.cons_append, Railroad.skipStatementFrom, if_neg hc, if_neg (by simp [hq]), ih]
  | @quoted _ _ q content t hq hn _ ih =>
    rw [show q :: (content ++ q :: t) ++ s = q :: (content ++ q :: (t ++ s)) by simp,
      Railroad.skipStatementFrom, if_neg (opensQuote_ne_semicolon hq), if_pos hq,
      behindQuote_append hn, ih]

theorem quoted_inj {q : Char} {x y s v : List Char} (hx : q ∉ x) (hy : q ∉ y)
    (h : x ++ q :: s = y ++ q :: v) : x = y ∧ s = v := by
  have hsv : s = v := by rw [← behindQuote_append hx s, h, behindQuote_append hy]
  subst hsv
  exact ⟨List.append_cancel_right h, rfl⟩

theorem Scans.tail {b v w : List Char} {stop : Option Char} (h : Scans prev t last)
    (hb : Scans prev b stop) (he : b ++ ';' :: w = t ++ v) :
    ∃ b', b = t ++ b' ∧ v = b' ++ ';' :: w ∧ Scans last b' stop := by
  -- the next character and the memory decide a step, so the second scan follows the first
  induction h generalizing b with
  | nil => exact ⟨b, rfl, he.symm, hb⟩
  | @plain prev last c t hc hq _ ih =>
    cases hb with
    | nil =>
      cases he
      exact absurd rfl hc
    | @plain _ _ d b _ _ hb =>
      obtain ⟨rfl, hrest⟩ := List.cons.inj he
      obtain ⟨b', rfl, hv, hb'⟩ := ih hb hrest
      exact ⟨b', rfl, hv, hb'⟩
    | quoted hq' =>
      obtain ⟨rfl, -⟩ := List.cons.inj he
      rw [hq] at hq'
      cases hq'
  | @quoted prev last q content t hq hn _ ih =>
    cases hb with
    | nil =>
      cases he
      exact absurd rfl (opensQuote_ne_semicolon hq)
    | plain _ hq' =>
      obtain ⟨rfl, -⟩ := List.cons.inj he
      rw [hq'] at hq
      cases hq
    | @quoted _ _ q' content' b hq' hn' hb =>
      obtain ⟨rfl, hrest⟩ := List.cons.inj he
      simp only [List.append_eq, List.append_assoc, List.cons_append] at hrest
      obtain ⟨rfl, htail⟩ := quoted_inj hn' hn hrest
      obtain ⟨b', rfl, hv, hb'⟩ := ih hb htail
      exact ⟨b', by simp, hv, hb'⟩

/-- The number of open parentheses behind `c`.  A semicolon ends a statement, and its parentheses
with it. -/
def levelBehind (level : Nat) (c : Char) : Nat :=
  if c = '(' then level + 1 else if c = ')' then level - 1 else if c = ';' then 0 else level

def nestingFrom (prev : Option Char) (level : Nat) : List Char → Nat
  | [] => level
  | c :: s =>
    if opensQuote prev c then nestingFrom (some c) level (behindQuote c s)
    else max level (nestingFrom (lastInk prev c) (levelBehind level c) s)
termination_by s => s.length
decreasing_by
  · exact Nat.lt_succ_of_le (length_behindQuote c s)
  · exact Nat.lt_succ_self _

def nesting (s : List Char) : Nat := nestingFrom none 0 s

theorem level_le_nestingFrom (prev : Option Char) (level : Nat) (s : List Char) :
    level ≤ nestingFrom prev level s := by
  fun_induction nestingFrom prev level s with
  | case1 => exact Nat.le_refl _
  | case2 prev level c s hq ih => exact ih
  | case3 prev level c s hq ih => exact Nat.le_max_left _ _

/-- A scan passes the text, meets in it parentheses that nest `m` levels, and leaves as many open as
there were before. -/
structure Passes (prev : Option Char) (t : List Char) (last : Option Char) (m : Nat) : Prop where
  scans : Scans prev t last
  nests : ∀ level s, max (level + m) (nestingFrom last level s) ≤ nestingFrom prev level (t ++ s)

theorem passes_nil : Passes prev [] prev 0 where
  scans := .nil
  nests level s := Nat.max_le.mpr ⟨level_le_nestingFrom prev level s, Nat.le_refl _⟩

theorem Passes.append {m n : Nat} (h : Passes prev t mid m) (h' : Passes mid u last n) :
    Passes prev (t ++ u) last (max m n) where
  scans := h.scans.append h'.scans
  nests level s := by
    have ht := h.nests level (u ++ s)
    have hu := h'.nests level s
    rw [List.append_assoc]
    omega

theorem passes_quoted {q : Char} {content : List Char} (hq : opensQuote prev q)
    (hn : q ∉ content) : Passes prev (q :: (content ++ [q])) (some q) 0 where
  scans := .quoted hq hn .nil
  nests level s := by
    rw [show q :: (content ++ [q]) ++ s = q :: (content ++ q :: s) by simp, nestingFrom, if_pos hq,
      behindQuote_append hn]
    exact Nat.max_le.mpr ⟨level_le_nestingFrom (some q) level s, Nat.le_refl _⟩

theorem passes_char {c : Char} (hc : c ≠ ';') (hq : opensQuote prev c = false) (ho : c ≠ '(')
    (hc' : c ≠ ')') : Passes prev [c] (lastInk prev c) 0 where
  scans := .plain hc hq .nil
  nests level s := by
    rw [List.singleton_append, nestingFrom, if_neg (by simp [hq]), levelBehind, if_neg ho,
      if_neg hc', if_neg hc, Nat.add_zero]

theorem Passes.parenthesised {m : Nat} (h : Passes (some '(') t last m) :
    Passes prev ('(' :: (t ++ [')'])) (some ')') (m + 1) where
  scans := .plain (by decide) (by simp [opensQuote, isQuote])
    (h.scans.append (.plain (by decide) (by simp [opensQuote, isQuote]) .nil))
  nests level s := by
    have ht := h.nests (level + 1) (')' :: s)
    rw [show '(' :: (t ++ [')']) ++ s = '(' :: (t ++ ')' :: s) by simp]
    rw [nestingFrom, if_neg (by simp [opensQuote, isQuote])] at ht ⊢
    simp only [levelBehind, lastInk, isBlank] at ht ⊢
    simp at ht ⊢
    omega

end Railroad
