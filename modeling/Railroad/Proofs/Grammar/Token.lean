import Mathlib.Data.List.TakeWhile
import Railroad.Proofs.Grammar.Derivation

namespace Railroad

theorem ofChar?_repetition {c : Char} {r : Repetition} :
    Repetition.ofChar? c = some r ↔ c = r.char := by
  cases r <;> grind [Repetition.ofChar?, Repetition.char]

theorem ofChar?_operator {c : Char} {op : Operator} :
    Operator.ofChar? c = some op ↔ c = op.char := by
  cases op <;> grind [Operator.ofChar?, Operator.char]

theorem isBlank_operator (op : Operator) : isBlank op.char = false := by cases op <;> rfl

theorem isBlank_repetition (r : Repetition) : isBlank r.char = false := by cases r <;> rfl

theorem suffixTree_iff {x y : Rule} {c : Char} :
    SuffixTree x c y ↔ ∃ r : Repetition, c = r.char ∧ y = r.node x := by
  constructor
  · intro h
    cases h with
    | optional => exact ⟨.optional, rfl, rfl⟩
    | oneOrMore => exact ⟨.oneOrMore, rfl, rfl⟩
    | zeroOrMore => exact ⟨.zeroOrMore, rfl, rfl⟩
  · rintro ⟨r, rfl, rfl⟩
    cases r with
    | optional => exact .optional
    | oneOrMore => exact .oneOrMore
    | zeroOrMore => exact .zeroOrMore

theorem levelTree_iff {x y z : Rule} {zs : List Rule} {c : Char} :
    LevelTree x y zs c z ↔ ∃ op : Operator, c = op.char ∧ z = op.node x y zs := by
  constructor
  · intro h
    cases h with
    | sequence => exact ⟨.sequence, rfl, rfl⟩
    | choice => exact ⟨.choice, rfl, rfl⟩
  · rintro ⟨op, rfl, rfl⟩
    cases op with
    | sequence => exact .sequence
    | choice => exact .choice

theorem blanks_nil : Blanks [] := by simp [Blanks]

theorem Blanks.append {b b' : List Char} (hb : Blanks b) (hb' : Blanks b') : Blanks (b ++ b') := by
  intro c hc
  exact (List.mem_append.mp hc).elim (hb c) (hb' c)

theorem skipBlanks_append {b : List Char} (hb : Blanks b) (s : List Char) :
    skipBlanks (b ++ s) = skipBlanks s :=
  List.dropWhile_append_of_pos hb

theorem skipBlanks_cons {c : Char} (hc : isBlank c = false) (s : List Char) :
    skipBlanks (c :: s) = c :: s :=
  List.dropWhile_cons_of_neg (by simp [hc])

theorem skipBlanks_before {b : List Char} (hb : Blanks b) {c : Char} (hc : isBlank c = false)
    (s : List Char) : skipBlanks (b ++ c :: s) = c :: s := by
  rw [skipBlanks_append hb, skipBlanks_cons hc]

theorem exists_blanks {s w : List Char} (h : skipBlanks s = w) : ∃ b, Blanks b ∧ s = b ++ w := by
  subst h
  exact ⟨s.takeWhile isBlank, fun _ hc => List.mem_takeWhile_imp hc,
    List.takeWhile_append_dropWhile.symm⟩

theorem blanks_before (s : List Char) : ∃ b, Blanks b ∧ s = b ++ skipBlanks s := exists_blanks rfl

theorem skipBlanks_suffix (s : List Char) : skipBlanks s <:+ s := List.dropWhile_suffix isBlank

theorem head_skipBlanks {s w : List Char} {c : Char} (h : skipBlanks s = c :: w) :
    isBlank c = false := by
  have hs := List.head?_dropWhile_not isBlank s
  rw [show s.dropWhile isBlank = c :: w from h] at hs
  simpa using hs

theorem skipBlanks_skipBlanks (s : List Char) : skipBlanks (skipBlanks s) = skipBlanks s := by
  cases h : skipBlanks s with
  | nil => rfl
  | cons c w => exact skipBlanks_cons (head_skipBlanks h) w

theorem skipBlanks_append_cons {c : Char} (hc : isBlank c = false) (s w : List Char) :
    skipBlanks (s ++ c :: w) = skipBlanks s ++ c :: w := by
  cases h : skipBlanks s with
  | nil =>
    obtain ⟨b, hb, rfl⟩ := exists_blanks h
    rw [List.append_nil, skipBlanks_before hb hc, List.nil_append]
  | cons d v =>
    obtain ⟨b, hb, rfl⟩ := exists_blanks h
    rw [List.append_assoc, skipBlanks_append hb]
    exact skipBlanks_cons (head_skipBlanks h) (v ++ c :: w)

def Inked : List Char → Prop
  | [] => False
  | c :: _ => isBlank c = false

theorem Inked.append {t : List Char} (h : Inked t) (s : List Char) : Inked (t ++ s) := by
  cases t with
  | nil => exact h.elim
  | cons c t => exact h

theorem Inked.skipBlanks {t : List Char} (h : Inked t) : skipBlanks t = t := by
  cases t with
  | nil => rfl
  | cons c t => exact skipBlanks_cons h t

theorem isNameChar_of_isNameStart {c : Char} (h : isNameStart c) : isNameChar c := by
  simp only [isNameStart, isNameChar] at *
  simp [h]

theorem isBlank_eq_false_of_isNameChar {c : Char} (h : isNameChar c) : isBlank c = false := by
  cases hb : isBlank c with
  | false => rfl
  | true =>
    simp only [isBlank, Bool.or_eq_true, decide_eq_true_eq] at hb
    rcases hb with ((rfl | rfl) | rfl) | rfl <;> cases h

theorem isQuote_eq_false_of_isNameChar {c : Char} (h : isNameChar c) : isQuote c = false := by
  cases hq : isQuote c with
  | false => rfl
  | true =>
    simp only [isQuote, Bool.or_eq_true, decide_eq_true_eq] at hq
    rcases hq with (rfl | rfl) | rfl <;> cases h

theorem isBlank_eq_false_of_isQuote {c : Char} (h : isQuote c) : isBlank c = false := by
  simp only [isQuote, Bool.or_eq_true, decide_eq_true_eq] at h
  rcases h with (rfl | rfl) | rfl <;> rfl

theorem IsName.inked {name : List Char} (h : IsName name) : Inked name := by
  cases name with
  | nil => exact h.elim
  | cons c name => exact isBlank_eq_false_of_isNameChar (isNameChar_of_isNameStart h.1)

theorem IsName.isNameChar {name : List Char} (h : IsName name) : ∀ c ∈ name, isNameChar c := by
  cases name with
  | nil => exact h.elim
  | cons c s =>
    intro d hd
    rcases List.mem_cons.mp hd with rfl | hd
    · exact isNameChar_of_isNameStart h.1
    · exact h.2 d hd

/-- Nothing at the front of the text would prolong a name. -/
def EndsName (s : List Char) : Prop := ∀ c ∈ s.head?, isNameChar c = false

theorem endsName_blanks {b : List Char} (hb : Blanks b) {s : List Char} (hs : EndsName s) :
    EndsName (b ++ s) := by
  cases b with
  | nil => exact hs
  | cons c b =>
    intro d hd
    cases hd
    by_contra hn
    have hc := isBlank_eq_false_of_isNameChar (by simpa using hn)
    rw [hb c (by simp)] at hc
    cases hc

theorem Identifier.read?_name {name s : List Char} (hn : IsName name) (hs : EndsName s) :
    read? (name ++ s) = some ⟨name, s⟩ := by
  cases name with
  | nil => exact hn.elim
  | cons c name =>
    obtain ⟨hc, hname⟩ := hn
    have hends : s.takeWhile Railroad.isNameChar = [] ∧ s.dropWhile Railroad.isNameChar = s := by
      cases s with
      | nil => exact ⟨rfl, rfl⟩
      | cons d s =>
        have hd : Railroad.isNameChar d = false := hs d rfl
        simp [hd]
    rw [List.cons_append, read?, if_pos hc, List.takeWhile_append_of_pos hname,
      List.dropWhile_append_of_pos hname, hends.1, hends.2, List.append_nil]

theorem Identifier.of_read? {s : List Char} {i : Identifier} (h : read? s = some i) :
    IsName i.name ∧ s = i.name ++ i.rest ∧ EndsName i.rest := by
  cases s with
  | nil => cases h
  | cons c s =>
    by_cases hc : isNameStart c
    · rw [read?, if_pos hc] at h
      cases h
      refine ⟨⟨hc, fun _ hx => List.mem_takeWhile_imp hx⟩, ?_, ?_⟩
      · simp
      · intro d hd
        have hs := List.head?_dropWhile_not isNameChar s
        rw [Option.mem_def] at hd
        rw [hd] at hs
        simpa using hs
    · rw [read?, if_neg hc] at h
      cases h

theorem Identifier.read?_eq_none {c : Char} (hc : isNameStart c = false) (s : List Char) :
    read? (c :: s) = none := by
  rw [read?, if_neg (by simp [hc])]

theorem Quoted.read?_quoted {q : Char} {content : List Char} (hq : isQuote q)
    (hc : content ≠ []) (hn : q ∉ content) (s : List Char) :
    read? (q :: (content ++ q :: s)) = some ⟨q, content, s⟩ := by
  have hall : ∀ x ∈ content, decide (x ≠ q) = true := by
    intro x hx
    exact decide_eq_true fun he => hn (he ▸ hx)
  have htake : (content ++ q :: s).takeWhile (· ≠ q) = content := by
    rw [List.takeWhile_append_of_pos hall, List.takeWhile_cons_of_neg (by simp), List.append_nil]
  have hdrop : (content ++ q :: s).dropWhile (· ≠ q) = q :: s := by
    rw [List.dropWhile_append_of_pos hall, List.dropWhile_cons_of_neg (by simp)]
  cases content with
  | nil => exact absurd rfl hc
  | cons c content => rw [read?, if_pos hq, htake, hdrop]

theorem Quoted.of_read? {s : List Char} {q : Quoted} (h : read? s = some q) :
    isQuote q.delimiter ∧ q.content ≠ [] ∧ q.delimiter ∉ q.content ∧
      s = q.delimiter :: (q.content ++ q.delimiter :: q.rest) := by
  cases s with
  | nil => cases h
  | cons d s =>
    by_cases hd : isQuote d
    · rw [read?, if_pos hd] at h
      split at h
      · rename_i c content e rest htake hdrop
        cases h
        have he : e = d := by
          have hs := List.head?_dropWhile_not (· ≠ d) s
          rw [hdrop] at hs
          simpa using hs
        subst he
        refine ⟨hd, List.cons_ne_nil c content, ?_, ?_⟩
        · intro hmem
          rw [← htake] at hmem
          simpa using List.mem_takeWhile_imp hmem
        · rw [← htake, ← hdrop, List.takeWhile_append_dropWhile]
      · cases h
    · rw [read?, if_neg hd] at h
      cases h

end Railroad
