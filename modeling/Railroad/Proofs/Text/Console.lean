import Mathlib.Data.List.DropRight
import Mathlib.Data.List.SplitBy
import Railroad.Decimal.Notation
import Railroad.Proofs.Text.Lines
import Railroad.Proofs.Text.Markup
import Railroad.Text.Console

namespace Railroad

variable {s w line : List Char} {c d : Char} {limit : Nat}

/-- What is shown of the character is the character itself, whatever stands before it. -/
def isInert (c : Char) : Bool :=
  !Markup.isBracket c && !isDropped c && c ≠ '\\' && c ≠ ':' && c ≠ '\n' && c ≠ '\t'

def Inert (w : List Char) : Prop := ∀ c ∈ w, isInert c

instance (w : List Char) : Decidable (Inert w) := decidable_of_iff (w.all isInert) List.all_eq_true

theorem inert_cons : Inert (c :: w) ↔ isInert c ∧ Inert w := List.forall_mem_cons

theorem inert_append {u v : List Char} : Inert (u ++ v) ↔ Inert u ∧ Inert v := List.forall_mem_append

theorem Inert.not_mem (h : Inert w) (hc : isInert c = false) : c ∉ w := by
  intro hmem
  rw [h c hmem] at hc
  cases hc

namespace Emoji

theorem replace_cons (hc : c ≠ ':') (s : List Char) : replace (c :: s) = c :: replace s := by
  rw [replace, if_neg hc]

theorem replace_eq_self (hw : ':' ∉ w) : replace w = w := by
  induction w with
  | nil => rw [replace]
  | cons c w ih =>
    rw [replace_cons (List.ne_of_not_mem_cons hw).symm, ih (List.not_mem_of_not_mem_cons hw)]

theorem replace_code {rest : List Char} (h : s.dropWhile isCodeChar = ':' :: rest) :
    replace (':' :: s) = (ofCode? (s.takeWhile isCodeChar)).getD
      (':' :: (s.takeWhile isCodeChar ++ [':'])) ++ replace rest := by
  rw [replace, if_pos rfl]
  split
  · rename_i rest' h'
    cases h.symm.trans h'
    rfl
  · rename_i hne
    exact absurd h (hne rest)

theorem replace_colon (h : ∀ rest, s.dropWhile isCodeChar ≠ ':' :: rest) :
    replace (':' :: s) = ':' :: replace s := by
  rw [replace, if_pos rfl]
  split
  · rename_i rest h'
    exact absurd h' (h rest)
  · rfl

theorem replace_append (hw : ':' ∉ w) (s : List Char) : replace (s ++ w) = replace s ++ w := by
  fun_induction replace s with
  | case1 => exact replace_eq_self hw
  | case2 s _ rest hrest code ih =>
    have hfront : (s ++ w).takeWhile isCodeChar = code := by
      have hlen := congrArg List.length (s.takeWhile_append_dropWhile (p := isCodeChar))
      rw [hrest, List.length_append, List.length_cons] at hlen
      rw [List.takeWhile_append, if_neg (by omega)]
    have hdrop : (s ++ w).dropWhile isCodeChar = ':' :: (rest ++ w) := by
      rw [List.dropWhile_append, hrest]
      rfl
    rw [List.cons_append, replace_code hdrop, hfront, ih, List.append_assoc]
  | case3 s _ hrest ih =>
    have hdrop : ∀ rest, (s ++ w).dropWhile isCodeChar ≠ ':' :: rest := by
      intro rest h
      rw [List.dropWhile_append] at h
      split at h
      · have hmem : ':' ∈ w.dropWhile isCodeChar := by
          rw [h]
          exact List.mem_cons_self
        exact hw ((w.dropWhile_sublist _).subset hmem)
      · rename_i hne
        cases hs : s.dropWhile isCodeChar with
        | nil => exact hne (by rw [hs]; rfl)
        | cons c t =>
          rw [hs, List.cons_append] at h
          cases h
          exact hrest t hs
    rw [List.cons_append, replace_colon hdrop, ih, List.cons_append]
  | case4 c s _ hc ih => rw [List.cons_append, replace_cons hc, ih, List.cons_append]

end Emoji

namespace Markup

theorem shownFrom_inert (hw : Inert w) (run : List Char) :
    shownFrom run (pieces 0 w) = Emoji.replace (run.reverse ++ w) := by
  induction w generalizing run with
  | nil => rw [pieces_nil, shownFrom, shownFrom, List.append_nil]; rfl
  | cons c w ih =>
    have hbracket : c ≠ '[' := (List.ne_of_not_mem_cons (hw.not_mem rfl)).symm
    have hslash : c ≠ '\\' := (List.ne_of_not_mem_cons (hw.not_mem rfl)).symm
    rw [pieces_char (tag?_of_ne hbracket w) hslash, shownFrom, if_neg hbracket,
      ih (List.forall_mem_cons.mp hw).2]
    simp [backslashes]

theorem shownFrom_append (hw : Inert w) (run : List Char) (n : Nat) (s : List Char) :
    shownFrom run (pieces n (s ++ w)) = shownFrom run (pieces n s) ++ w := by
  -- no bracket behind the text closes one that is open in it
  have hclose : w.find? isBracket ≠ some ']' := by
    intro h
    exact hw.not_mem rfl (List.mem_of_find?_eq_some h)
  induction n, s using pieces.induct generalizing run with
  | case1 n =>
    cases w with
    | nil => rw [List.append_nil, List.append_nil]
    | cons c w =>
      have hbracket : c ≠ '[' := (List.ne_of_not_mem_cons (hw.not_mem rfl)).symm
      have hslash : c ≠ '\\' := (List.ne_of_not_mem_cons (hw.not_mem rfl)).symm
      rw [List.nil_append, pieces_char (tag?_of_ne hbracket w) hslash, shownFrom, if_neg hbracket,
        shownFrom_inert (List.forall_mem_cons.mp hw).2, pieces_nil, shownFrom, shownFrom,
        ← Emoji.replace_append (hw.not_mem rfl), List.reverse_cons, List.append_assoc,
        List.singleton_append]
  | case2 n c s text rest h ih =>
    obtain ⟨_, _, _, _, _, hs⟩ := tag?_eq_some_iff.mp h
    have htag := tag?_before h (rest ++ w)
    rw [← List.append_assoc, ← hs] at htag
    rw [pieces_tag htag, pieces_tag h, shownFrom, shownFrom, ih, ← List.append_assoc]
  | case3 n s _ ih => rw [List.cons_append, pieces_backslash, pieces_backslash, ih]
  | case4 n c s h hc ih =>
    have htag := tag?_append h (List.cons_ne_nil c s) hclose
    rw [List.cons_append] at htag ⊢
    rw [pieces_char htag hc, pieces_char h hc, shownFrom, shownFrom, ih]

end Markup

theorem printable_append {w : String} (hw : Inert w.toList) (markup : String) :
    printable (markup ++ w) = printable markup ++ w.toList := by
  have hdropped : w.toList.filter (!isDropped ·) = w.toList := by
    refine List.filter_eq_self.mpr fun c hc => ?_
    have hinert := hw c hc
    simp only [isInert, Bool.and_eq_true] at hinert
    exact hinert.1.1.1.1.2
  rw [printable, Markup.shown, String.toList_append, Markup.shownFrom_append hw, List.filter_append,
    hdropped, printable, Markup.shown]

theorem splitAt_append (hw : d ∉ w) (s : List Char) : ∃ lines line,
    splitAt d s = lines ++ [line] ∧ splitAt d (s ++ w) = lines ++ [line ++ w] := by
  induction s using piece_induction d with
  | last a ha =>
    have haw : d ∉ a ++ w := List.not_mem_append ha hw
    exact ⟨[], a, splitAt_of_not_mem ha, splitAt_of_not_mem haw⟩
  | more a t ha ih =>
    obtain ⟨lines, line, hs, hsw⟩ := ih
    refine ⟨a :: lines, line, ?_, ?_⟩
    · rw [splitAt_append_cons ha, hs, List.cons_append]
    · rw [List.append_assoc, List.cons_append, splitAt_append_cons ha, hsw, List.cons_append]

theorem expandTabs_append (hw : '\t' ∉ w) (column : Nat) (s : List Char) :
    expandTabs column (s ++ w) = expandTabs column s ++ w := by
  have hself : ∀ column, expandTabs column w = w := by
    induction w with
    | nil => exact fun _ => rfl
    | cons c w ih =>
      intro column
      rw [expandTabs, if_neg (List.ne_of_not_mem_cons hw).symm, ih (List.not_mem_of_not_mem_cons hw)]
  induction s generalizing column with
  | nil => exact hself column
  | cons c s ih =>
    rw [List.cons_append, expandTabs, expandTabs]
    split
    · simp only [ih, List.append_assoc]
    · rw [ih, List.cons_append]

def wholeLines (markup : String) : List String :=
  (splitAt '\n' (printable markup)).map fun line => String.ofList (expandTabs 0 line)

/-- Inert characters at the end of a text are the end of its last line. -/
theorem wholeLines_append {w : String} (hw : Inert w.toList) (markup : String) :
    ∃ lines line, wholeLines (markup ++ w) = lines ++ [line ++ w] := by
  obtain ⟨lines, line, -, hsplit⟩ := splitAt_append (hw.not_mem (c := '\n') rfl) (printable markup)
  refine ⟨lines.map fun line => String.ofList (expandTabs 0 line), String.ofList (expandTabs 0 line),
    ?_⟩
  rw [wholeLines, printable_append hw, hsplit, List.map_append, List.map_singleton,
    expandTabs_append (hw.not_mem rfl), String.ofList_append, String.ofList_toList]

theorem cellsOf_append (s t : List Char) : cellsOf (s ++ t) = cellsOf s + cellsOf t := by
  induction s with
  | nil => exact (Nat.zero_add _).symm
  | cons c s ih =>
    rw [List.cons_append]
    change charCells c + cellsOf (s ++ t) = charCells c + cellsOf s + cellsOf t
    rw [ih, Nat.add_assoc]

theorem cellsOf_le_of_prefix (h : s <+: line) : cellsOf s ≤ cellsOf line := by
  obtain ⟨t, rfl⟩ := h
  rw [cellsOf_append]
  exact Nat.le_add_right _ _

namespace Wrap

theorem breaks_eq_nil (long : LongWord) (start used : Nat) (ws : List (List Char))
    (h : used + cellsOf ws.flatten ≤ limit) : breaks long limit start used ws = [] := by
  induction ws generalizing start used with
  | nil => rfl
  | cons word ws ih =>
    rw [List.flatten_cons, cellsOf_append] at h
    have htrim : cellsOf (trimEnd word) ≤ cellsOf word :=
      cellsOf_le_of_prefix (List.rdropWhile_prefix isSpace word)
    rw [breaks.eq_def]
    dsimp only
    rw [if_pos (by omega), ih _ _ (by omega)]

theorem trimTo_of_le (h : line.length ≤ limit) : trimTo limit line = line := by
  rw [trimTo, Nat.sub_eq_zero_of_le h, Nat.min_zero, Nat.sub_zero, List.take_length]

end Wrap

theorem cellsOf_spacedWords (s : List Char) : cellsOf (spacedWords s).flatten ≤ cellsOf s := by
  have hwords := List.flatten_splitBy (fun a b => !isSpace a || isSpace b) s
  unfold spacedWords
  split
  · exact Nat.zero_le _
  · rename_i part parts hparts
    rw [hparts] at hwords
    split
    · cases parts with
      | nil => exact Nat.zero_le _
      | cons word others =>
        rw [← hwords, List.flatten_cons, List.flatten_cons, List.flatten_cons, List.append_assoc]
    · rw [hwords]

theorem wrapLine_of_le (long : LongWord) (h : line.length ≤ limit) (hcells : cellsOf line ≤ limit) :
    wrapLine long limit line = [line] := by
  have hwords := (cellsOf_spacedWords line).trans hcells
  have hfit : Wrap.fit long limit line = line := if_pos hcells
  rw [wrapLine, Wrap.breaks_eq_nil long 0 0 _ (by omega), Wrap.cutAt, List.map_singleton,
    Wrap.trimTo_of_le h, hfit]

/-- Lines that are long enough hold every text as it is. -/
theorem exists_room (long : LongWord) (markup : String) :
    ∃ room, ∀ limit, room ≤ limit → wrappedLines long limit markup = wholeLines markup := by
  have hbound : ∀ lines : List (List Char), ∃ room, ∀ limit, room ≤ limit →
      (lines.flatMap fun line => (wrapLine long limit (expandTabs 0 line)).map String.ofList) =
        lines.map fun line => String.ofList (expandTabs 0 line) := by
    intro lines
    induction lines with
    | nil => exact ⟨0, fun _ _ => rfl⟩
    | cons line lines ih =>
      obtain ⟨room, ih⟩ := ih
      refine ⟨room + (expandTabs 0 line).length + cellsOf (expandTabs 0 line), fun limit h => ?_⟩
      rw [List.flatMap_cons, wrapLine_of_le long (by omega) (by omega), ih limit (by omega)]
      rfl
  exact hbound _

theorem inert_replicate (n : Nat) (hc : isInert c) : Inert (List.replicate n c) := by
  intro x hx
  rwa [List.eq_of_mem_replicate hx]

theorem inert_toDigits (n : Nat) : Inert (Nat.toDigits 10 n) := by
  intro c hc
  have hdigit := Nat.isDigit_of_mem_toDigits (by decide) (by decide) hc
  have hne : ∀ d, d.isDigit = false → c ≠ d := by
    rintro d hd rfl
    rw [hdigit] at hd
    cases hd
  have hrange : 48 ≤ c.toNat ∧ c.toNat ≤ 57 := by
    simpa [Char.isDigit, UInt32.le_iff_toNat_le] using hdigit
  have hdropped : isDropped c = false := by
    simp only [isDropped, Bool.or_eq_false_iff, Bool.and_eq_false_iff, decide_eq_false_iff_not]
    omega
  simp [isInert, hdropped, Markup.isBracket, hne '[' rfl, hne ']' rfl, hne '\\' rfl, hne ':' rfl,
    hne '\n' rfl, hne '\t' rfl]

namespace DecimalNotation

theorem inert_pointAt (n : DecimalNotation) {digits : List Char} (h : Inert digits) (whole : Nat) :
    Inert (n.pointAt digits whole) := by
  unfold pointAt
  split
  · refine inert_append.mpr ⟨inert_append.mpr ⟨h, inert_replicate _ rfl⟩, ?_⟩
    split <;> decide
  · rename_i fraction hfraction
    refine inert_append.mpr ⟨fun c hc => h c (List.mem_of_mem_take hc), inert_cons.mpr ⟨rfl, ?_⟩⟩
    exact fun c hc => h c (List.mem_of_mem_drop hc)

theorem inert_positional (n : DecimalNotation) (d : Decimal) : Inert (n.positional d) := by
  unfold positional
  split
  · refine inert_cons.mpr ⟨rfl, inert_cons.mpr ⟨rfl, inert_append.mpr ⟨?_, ?_⟩⟩⟩
    · exact inert_replicate _ rfl
    · exact inert_toDigits d.coefficient
  · exact n.inert_pointAt (inert_toDigits d.coefficient) _

theorem inert_scientific (n : DecimalNotation) (d : Decimal) : Inert (n.scientific d) := by
  have hdigits := inert_toDigits d.coefficient
  unfold scientific
  refine inert_append.mpr ⟨?_, inert_cons.mpr ⟨rfl, inert_cons.mpr ⟨?_, ?_⟩⟩⟩
  · split
    · rename_i first hfirst
      exact hfirst ▸ hdigits
    · rename_i first others _ hfirst
      rw [← Decimal.digits, hfirst] at hdigits
      obtain ⟨hfirst, hothers⟩ := inert_cons.mp hdigits
      exact inert_cons.mpr ⟨hfirst, inert_cons.mpr ⟨rfl, hothers⟩⟩
    · exact List.forall_mem_nil _
  · split <;> rfl
  · exact inert_append.mpr ⟨inert_replicate _ rfl, inert_toDigits _⟩

end DecimalNotation

theorem inert_brief (x : Float) : Inert (Numeral.brief x).toList := by
  have hmagnitude : ∀ d, Inert (outlineNotation.magnitudeText d) := by
    intro d
    rw [DecimalNotation.magnitudeText]
    split
    · exact outlineNotation.inert_positional d
    · exact outlineNotation.inert_scientific d
  change Inert (outlineNotation.write _ x).toList
  unfold DecimalNotation.write
  split
  · decide
  · split <;> decide
  · split
    · rw [String.toList_append]
      refine inert_append.mpr ⟨by decide, ?_⟩
      rw [String.toList_ofList]
      exact hmagnitude _
    · rw [String.toList_ofList]
      exact hmagnitude _

end Railroad
