import Mathlib.Data.List.Basic
import Railroad.Text.Markup.Tag

namespace Railroad.Markup

variable {a b s rest text : List Char} {c x : Char} {n : Nat}

theorem head?_dropWhile (p : Char → Bool) (s : List Char) :
    (s.dropWhile (!p ·)).head? = s.find? p := by
  induction s with
  | nil => rfl
  | cons c s ih => by_cases hc : p c <;> simp [hc, ih]

theorem tag?_of_ne (hc : c ≠ '[') (s : List Char) : tag? (c :: s) = none := by
  unfold tag?
  split
  · rename_i h
    cases h
    exact absurd rfl hc
  · rfl

theorem tag?_bracket_eq_none : tag? ('[' :: c :: s) = none ↔
    (isTagStart c → s.find? isBracket ≠ some ']') := by
  rw [← head?_dropWhile]
  unfold tag?
  split
  · rename_i c s h
    cases h
    split
    · rename_i hc
      split
      · rename_i rest hs
        simp [hc, hs]
      · rename_i hs
        simp only [hc, true_imp_iff, true_iff]
        intro hhead
        obtain ⟨rest, hrest⟩ := List.head?_eq_some_iff.mp hhead
        exact hs rest hrest
    · rename_i hc
      simp [hc]
  · rename_i hne
    exact absurd rfl (hne c s)

theorem tag?_eq_some_iff : tag? s = some (text, rest) ↔ ∃ c inner, isTagStart c ∧
    (∀ x ∈ inner, isBracket x = false) ∧ text = '[' :: c :: (inner ++ [']']) ∧
      s = text ++ rest := by
  constructor
  · intro h
    unfold tag? at h
    split at h
    · rename_i c s
      split at h
      · rename_i hc
        split at h
        · rename_i rest' hs
          cases h
          refine ⟨c, _, hc, fun x hx => ?_, rfl, ?_⟩
          · simpa using List.all_eq_true.mp List.all_takeWhile x hx
          · rw [List.cons_append, List.cons_append, List.append_assoc, List.singleton_append, ← hs,
              List.takeWhile_append_dropWhile]
        · cases h
      · cases h
    · cases h
  · rintro ⟨c, inner, hc, hinner, rfl, rfl⟩
    have hpos : ∀ x ∈ inner, (!isBracket x) = true := fun x hx => by simp [hinner x hx]
    have hclose : (!isBracket ']') = false := rfl
    simp only [List.cons_append, List.append_assoc, List.nil_append, tag?, if_pos hc]
    rw [List.dropWhile_append_of_pos hpos, List.takeWhile_append_of_pos hpos,
      List.dropWhile_cons_of_neg (by simp [hclose]), List.takeWhile_cons_of_neg (by simp [hclose]),
      List.append_nil]
    rfl

theorem tag?_before (h : tag? s = some (text, rest)) (w : List Char) :
    tag? (text ++ w) = some (text, w) := by
  obtain ⟨c, inner, hc, hinner, htext, -⟩ := tag?_eq_some_iff.mp h
  exact tag?_eq_some_iff.mpr ⟨c, inner, hc, hinner, htext, rfl⟩

/-- No tag begins anywhere. -/
def Unmarked (a : List Char) : Prop := ∀ rest ∈ a.tails, tag? rest = none

instance (a : List Char) : Decidable (Unmarked a) :=
  inferInstanceAs (Decidable (∀ rest ∈ a.tails, tag? rest = none))

theorem unmarked_cons : Unmarked (c :: a) ↔ tag? (c :: a) = none ∧ Unmarked a := by
  rw [Unmarked, List.tails, List.forall_mem_cons, Unmarked]

theorem isBracket_eq_false_of_isTagStart (h : isTagStart c) : isBracket c = false := by
  by_contra hc
  simp only [isBracket, Bool.not_eq_false, Bool.or_eq_true, decide_eq_true_eq] at hc
  rcases hc with rfl | rfl <;> cases h

theorem tag?_append (h : tag? a = none) (hne : a ≠ []) (hs : s.find? isBracket ≠ some ']') :
    tag? (a ++ s) = none := by
  obtain ⟨c, a, rfl⟩ := List.exists_cons_of_ne_nil hne
  by_cases hc : c = '['
  · subst hc
    cases a with
    | nil =>
      cases s with
      | nil => rfl
      | cons x s =>
        refine tag?_bracket_eq_none.mpr fun hx hclose => hs ?_
        rwa [List.find?_cons_of_neg (by simp [isBracket_eq_false_of_isTagStart hx])]
    | cons x a =>
      rw [List.cons_append, List.cons_append]
      refine tag?_bracket_eq_none.mpr fun hx hclose => ?_
      rw [List.find?_append] at hclose
      cases ha : a.find? isBracket with
      | none => exact hs (by rwa [ha] at hclose)
      | some y =>
        rw [ha] at hclose
        exact tag?_bracket_eq_none.mp h hx (ha.trans hclose)
  · exact tag?_of_ne hc _

theorem Unmarked.append (ha : Unmarked a) (hb : Unmarked b) (hs : b.find? isBracket ≠ some ']') :
    Unmarked (a ++ b) := by
  induction a with
  | nil => exact hb
  | cons c a ih =>
    obtain ⟨hc, ha⟩ := unmarked_cons.mp ha
    exact unmarked_cons.mpr ⟨tag?_append hc (List.cons_ne_nil c a) hs, ih ha⟩

theorem unmarked_append (ha : '[' ∉ a) (hb : Unmarked b) : Unmarked (a ++ b) := by
  induction a with
  | nil => exact hb
  | cons c a ih =>
    exact unmarked_cons.mpr ⟨tag?_of_ne (List.ne_of_not_mem_cons ha).symm _,
      ih (List.not_mem_of_not_mem_cons ha)⟩

/-- A tag that opens or closes a style, one that no backslash escapes. -/
def Piece.tag? : Piece → Option (List Char)
  | .tag n text => if n % 2 = 0 then some (inner text) else none
  | _ => none

def tags (n : Nat) (s : List Char) : List (List Char) := (pieces n s).filterMap Piece.tag?

theorem fault?_eq_none {s : String} :
    fault? s = none ↔ ∃ opened, (tags 0 s.toList).foldlM step [] = .ok opened := by
  simp only [fault?]
  split
  · rename_i opened h
    exact iff_of_true rfl ⟨opened, h⟩
  · rename_i e h
    refine iff_of_false (Option.some_ne_none e) ?_
    rintro ⟨opened, hopened⟩
    cases hopened.symm.trans h

theorem pieces_nil (n : Nat) : pieces n [] = [.ending n] := by
  rw [pieces]

theorem pieces_tag (h : tag? s = some (text, rest)) :
    pieces n s = .tag n text :: pieces 0 rest := by
  cases s with
  | nil => cases h
  | cons c s =>
    rw [pieces]
    split
    · rename_i h'
      cases h.symm.trans h'
      rfl
    · rename_i h'
      cases h.symm.trans h'

theorem pieces_backslash (n : Nat) (s : List Char) : pieces n ('\\' :: s) = pieces (n + 1) s := by
  rw [pieces]
  split
  · rename_i h
    cases (tag?_of_ne (by decide) s).symm.trans h
  · rw [if_pos rfl]

theorem pieces_char (h : tag? (c :: s) = none) (hc : c ≠ '\\') :
    pieces n (c :: s) = .char n c :: pieces 0 s := by
  rw [pieces]
  split
  · rename_i h'
    cases h.symm.trans h'
  · rw [if_neg hc]

theorem tags_nil (n : Nat) : tags n [] = [] := by
  rw [tags, pieces_nil]
  rfl

theorem tags_tag (h : tag? s = some (text, rest)) :
    tags n s = (if n % 2 = 0 then [inner text] else []) ++ tags 0 rest := by
  rw [tags, pieces_tag h]
  by_cases hn : n % 2 = 0 <;> simp [Piece.tag?, hn, tags]

theorem tags_backslash (n : Nat) (s : List Char) : tags n ('\\' :: s) = tags (n + 1) s := by
  rw [tags, pieces_backslash, tags]

theorem tags_char (h : tag? (c :: s) = none) (hc : c ≠ '\\') : tags n (c :: s) = tags 0 s := by
  rw [tags, pieces_char h hc]
  rfl

theorem tags_backslashes (n m : Nat) (s : List Char) :
    tags n (backslashes m ++ s) = tags (n + m) s := by
  induction m generalizing n with
  | zero => rfl
  | succ m ih =>
    rw [backslashes, List.replicate_succ, List.cons_append, tags_backslash, ← backslashes, ih,
      Nat.add_right_comm, Nat.add_assoc]

theorem tags_unmarked (ha : Unmarked a) (hs : s.find? isBracket ≠ some ']') :
    ∃ m, tags n (a ++ s) = tags m s := by
  induction a generalizing n with
  | nil => exact ⟨n, rfl⟩
  | cons c a ih =>
    obtain ⟨hc, ha⟩ := unmarked_cons.mp ha
    by_cases hslash : c = '\\'
    · rw [hslash, List.cons_append, tags_backslash]
      exact ih ha
    · have hca : tag? (c :: (a ++ s)) = none := tag?_append hc (List.cons_ne_nil c a) hs
      rw [List.cons_append, tags_char hca hslash]
      exact ih ha

theorem Unmarked.tags (ha : Unmarked a) : tags n a = [] := by
  obtain ⟨m, h⟩ := tags_unmarked (n := n) (s := []) ha (by simp)
  rw [List.append_nil] at h
  rw [h, tags_nil]

/-- A text behind a number of backslashes, written so that it stands for itself. -/
def escaped (n : Nat) (s : List Char) : List Char := (pieces n s).flatMap Piece.escaped

theorem escaped_tag (h : tag? s = some (text, rest)) :
    escaped n s = backslashes (2 * n + 1) ++ (text ++ escaped 0 rest) := by
  rw [escaped, pieces_tag h, List.flatMap_cons, Piece.escaped, List.append_assoc, escaped]

theorem escaped_backslash (n : Nat) (s : List Char) :
    escaped n ('\\' :: s) = escaped (n + 1) s := by
  rw [escaped, pieces_backslash, escaped]

theorem escaped_char (h : tag? (c :: s) = none) (hc : c ≠ '\\') :
    escaped n (c :: s) = backslashes n ++ c :: escaped 0 s := by
  rw [escaped, pieces_char h hc, List.flatMap_cons, Piece.escaped, List.append_assoc, escaped]
  rfl

theorem escaped_nil (n : Nat) : escaped n [] = backslashes (if n = 1 then 2 else n) := by
  rw [escaped, pieces_nil, List.flatMap_singleton, Piece.escaped]

theorem find?_backslashes (n : Nat) : (backslashes n).find? isBracket = none := by
  rw [List.find?_eq_none]
  intro x hx
  rw [List.eq_of_mem_replicate hx]
  decide

theorem find?_escaped (n : Nat) (s : List Char) :
    (escaped n s).find? isBracket = s.find? isBracket := by
  induction n, s using pieces.induct with
  | case1 n => rw [escaped_nil, find?_backslashes, List.find?_nil]
  | case2 n c s text rest h =>
    rw [escaped_tag h, List.find?_append, find?_backslashes]
    obtain ⟨x, inner, -, -, rfl, hs⟩ := tag?_eq_some_iff.mp h
    rw [hs]
    rfl
  | case3 n s _ ih => rw [escaped_backslash, ih, List.find?_cons_of_neg (by decide)]
  | case4 n c s h hc ih =>
    rw [escaped_char h hc, List.find?_append, find?_backslashes, Option.none_or, List.find?_cons,
      List.find?_cons, ih]

theorem escaped_succ (n : Nat) (s : List Char) : ∃ w, escaped (n + 1) s = '\\' :: w := by
  induction s generalizing n with
  | nil =>
    rw [escaped_nil]
    split <;> exact ⟨_, rfl⟩
  | cons c s ih =>
    cases h : tag? (c :: s) with
    | some found =>
      rw [escaped_tag h]
      exact ⟨_, rfl⟩
    | none =>
      by_cases hc : c = '\\'
      · rw [hc, escaped_backslash]
        exact ih (n + 1)
      · rw [escaped_char h hc]
        exact ⟨_, rfl⟩

theorem tag?_bracket_escaped (h : tag? ('[' :: s) = none) : tag? ('[' :: escaped 0 s) = none := by
  have hslash : ∀ w, tag? ('[' :: '\\' :: w) = none := fun w =>
    tag?_bracket_eq_none.mpr fun hstart => nomatch hstart
  cases s with
  | nil =>
    rw [escaped_nil]
    rfl
  | cons c s =>
    cases hc : tag? (c :: s) with
    | some found =>
      rw [escaped_tag hc]
      exact hslash _
    | none =>
      by_cases hx : c = '\\'
      · obtain ⟨w, hw⟩ := escaped_succ 0 s
        rw [hx, escaped_backslash, hw]
        exact hslash w
      · rw [escaped_char hc hx]
        refine tag?_bracket_eq_none.mpr fun hstart => ?_
        rw [find?_escaped]
        exact tag?_bracket_eq_none.mp h hstart

theorem tags_escaped (n : Nat) (s : List Char) : tags 0 (escaped n s) = [] := by
  induction n, s using pieces.induct with
  | case1 n =>
    rw [escaped_nil, ← List.append_nil (backslashes _), tags_backslashes, tags_nil]
  | case2 n c s text rest h ih =>
    rw [escaped_tag h, tags_backslashes, tags_tag (tag?_before h _), if_neg (by omega), ih,
      List.append_nil]
  | case3 n s _ ih => rw [escaped_backslash, ih]
  | case4 n c s h hc ih =>
    have htag : tag? (c :: escaped 0 s) = none := by
      by_cases hbracket : c = '['
      · rw [hbracket] at h ⊢
        exact tag?_bracket_escaped h
      · exact tag?_of_ne hbracket _
    rw [escaped_char h hc, tags_backslashes, tags_char htag hc, ih]

theorem tags_escape (s : String) : tags 0 (escape s).toList = [] := by
  rw [escape, String.toList_ofList]
  exact tags_escaped 0 s.toList

def printedStyles : List String := ["red", "yellow", "green"]

theorem checkColour_ne_noDigits (h : Style.between? "rgb(" ")" s = none) :
    Style.checkColour s ≠ .error .noDigits := by
  unfold Style.checkColour
  split
  · simp
  · rw [h]
    split
    · split <;> simp
    · split <;> simp
    · contradiction
    · simp

theorem exists_nameOf {name : String} (h : name ∈ printedStyles) :
    ∃ n, Style.nameOf name.toList = .ok n := by
  have htrim : ∀ name ∈ printedStyles, trim isSpace name.toList ≠ "none".toList := by
    decide +kernel
  have hwords : ∀ name ∈ printedStyles, words name.toList = [name.toList] := by decide +kernel
  have hlower : ∀ name ∈ printedStyles, lowerText name.toList = name.toList := by decide +kernel
  have hplain : ∀ name ∈ printedStyles, name ≠ "on" ∧ name ≠ "not" ∧ name ≠ "link" ∧
    Style.attribute? name = none := by decide +kernel
  have hrgb : ∀ name ∈ printedStyles, Style.between? "rgb(" ")" name.toList = none := by
    decide +kernel
  obtain ⟨hon, hnot, hlink, hattribute⟩ := hplain name h
  have hcolour := checkColour_ne_noDigits (hrgb name h)
  rw [Style.nameOf, if_neg (htrim name h), hwords name h]
  simp only [Style.addWords, hlower name h, String.ofList_toList, if_neg hon, if_neg hnot,
    if_neg hlink, hattribute]
  cases hc : Style.checkColour name.toList with
  | ok _ => exact ⟨_, rfl⟩
  | error e =>
    cases e with
    | unknown => exact ⟨_, rfl⟩
    | noDigits => exact absurd hc hcolour

theorem step_open {style : String} (h : style ∈ printedStyles) :
    ∃ n, step [] style.toList = .ok [⟨n, []⟩] := by
  obtain ⟨n, hn⟩ := exists_nameOf h
  refine ⟨n, ?_⟩
  have hsplit : ∀ style ∈ printedStyles, splitTag style.toList = (style.toList, []) := by
    decide +kernel
  have hslash : ∀ style ∈ printedStyles, style.toList.head? ≠ some '/' := by decide +kernel
  simp only [step, hsplit style h]
  split
  · rename_i name hname
    exact absurd (by rw [hname]; rfl) (hslash style h)
  · rw [hn]
    rfl

theorem step_close (n : String) : step [⟨n, []⟩] ['/'] = .ok [] := by
  simp [step, splitTag, trim, Tag.check, pure, Except.pure, bind, Except.bind]

theorem fault?_styled {t : String} (style : String) (a b : List Char)
    (hstyle : style ∈ printedStyles)
    (ht : t.toList = '[' :: (style.toList ++ ']' :: (a ++ '[' :: '/' :: ']' :: b)))
    (ha : Unmarked a) (hb : tags 0 b = []) : fault? t = none := by
  have hopening : ∀ style ∈ printedStyles, tag? ('[' :: (style.toList ++ [']'])) =
      some ('[' :: (style.toList ++ [']']), []) := by decide +kernel
  have hinner : ∀ style ∈ printedStyles, inner ('[' :: (style.toList ++ [']'])) = style.toList := by
    decide +kernel
  have hclosing : tag? ('[' :: '/' :: ']' :: b) = some (['[', '/', ']'], b) := rfl
  obtain ⟨n, hopen⟩ := step_open hstyle
  obtain ⟨m, hm⟩ := tags_unmarked (n := 0) (s := '[' :: '/' :: ']' :: b) ha (by simp [isBracket])
  have htags : tags 0 t.toList = style.toList :: if m % 2 = 0 then [['/']] else [] := by
    have hopening' := tag?_before (hopening style hstyle) (a ++ '[' :: '/' :: ']' :: b)
    rw [List.cons_append, List.append_assoc, List.singleton_append] at hopening'
    rw [ht, tags_tag hopening', if_pos rfl, hinner style hstyle, hm, tags_tag hclosing, hb,
      List.append_nil]
    rfl
  rw [fault?_eq_none, htags]
  split
  · exact ⟨[], by simp [hopen, step_close, bind, Except.bind, pure, Except.pure]⟩
  · exact ⟨_, by simp only [List.foldlM_cons, hopen]; rfl⟩

end Railroad.Markup
