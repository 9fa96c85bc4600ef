import Railroad.Proofs.Grammar.BrokenStatement
import Railroad.Proofs.Recovery.Confinement

namespace Railroad

variable {prev last : Option Char} {s u v w : List Char} {f : Failure}

theorem behindQuote_suffix (q : Char) (s : List Char) : behindQuote q s <:+ s := by
  unfold behindQuote
  split
  · exact List.suffix_refl s
  · rename_i c rest hs
    have h := s.dropWhile_suffix (· ≠ q)
    rw [hs] at h
    exact (List.suffix_cons c rest).trans h

theorem skipStatementFrom_suffix (prev : Option Char) (s : List Char) :
    skipStatementFrom prev s <:+ s := by
  fun_induction skipStatementFrom prev s with
  | case1 => exact List.suffix_refl _
  | case2 _ s => exact (skipBlanks_suffix s).trans (List.suffix_cons _ s)
  | case3 _ c s _ _ ih => exact ih.trans ((behindQuote_suffix c s).trans (List.suffix_cons c s))
  | case4 _ c s _ _ ih => exact ih.trans (List.suffix_cons c s)

theorem skipBlanks_skipStatementFrom (prev : Option Char) (s : List Char) :
    skipBlanks (skipStatementFrom prev s) = skipStatementFrom prev s := by
  fun_induction skipStatementFrom prev s with
  | case1 => rfl
  | case2 _ s => exact skipBlanks_skipBlanks s
  | case3 _ _ _ _ _ ih => exact ih
  | case4 _ _ _ _ _ ih => exact ih

theorem count_semicolon_of_suffix {c : Char} (h : w <:+ s) : w.count ';' ≤ (c :: s).count ';' :=
  (h.trans (List.suffix_cons c s)).sublist.count_le ';'

theorem count_skipStatementFrom (prev : Option Char) (s : List Char) :
    skipStatementFrom prev s = [] ∨ (skipStatementFrom prev s).count ';' < s.count ';' := by
  fun_induction skipStatementFrom prev s with
  | case1 => exact .inl rfl
  | case2 _ s =>
    have h := (skipBlanks_suffix s).sublist.count_le ';'
    refine .inr ?_
    rw [List.count_cons_self]
    omega
  | case3 _ c s _ _ ih =>
    exact ih.imp_right fun h => h.trans_le (count_semicolon_of_suffix (behindQuote_suffix c s))
  | case4 _ c s _ _ ih =>
    exact ih.imp_right fun h => h.trans_le (count_semicolon_of_suffix (List.suffix_refl s))

theorem Scans.length_skipStatement (h : Scans none u last) (v : List Char) :
    (skipStatement (u ++ v)).length ≤ v.length - 1 := by
  rw [skipStatement, h.skipStatementFrom]
  exact length_skipStatementFrom last v

namespace Statement

open Machine

variable [Machine]

theorem BrokenBody.scans (h : BrokenBody u v f) : ∃ last, Scans (some '=') u last := by
  cases h with
  | stuck hu =>
    have hprev : some '=' ≠ some ')' := by decide
    obtain ⟨last, hscan, -⟩ := hu.scans hprev
    exact ⟨last, hscan⟩
  | tooDeep => exact ⟨_, .nil⟩
  | @unterminated u v b p hr hb =>
    obtain ⟨b₁, t, b₂, hb₁, ht, hb₂, hs⟩ := Phrase.sound_rule nestingLimit (body_reads.mp hr)
    obtain ⟨last, _, -, hpass⟩ := passed_ruleText nestingLimit (some '=') ht (by decide)
    rw [← List.append_assoc] at hs
    rw [List.append_cancel_right hs]
    exact ⟨last, (hpass.scans.between_blanks hb₁ hb₂).append (.blanks hb)⟩

/-- The scan for the end of a statement passes whatever is read before the statement fails. -/
theorem BrokenStatement.scans (h : BrokenStatement u v f) : ∃ last, Scans none u last := by
  cases h with
  | symbol => exact ⟨none, .nil⟩
  | equals hn hb =>
    obtain ⟨last, hpass⟩ := passes_nameChars none hn.isNameChar
    exact ⟨last, hpass.scans.append (.blanks hb)⟩
  | body hn hb hb' _ h =>
    obtain ⟨mid, hpass⟩ := passes_nameChars none hn.isNameChar
    obtain ⟨last, hscan⟩ := h.scans
    have hequals : Scans mid ['='] (some '=') :=
      .plain (by decide) (by simp [opensQuote, isQuote]) .nil
    have hall := (hpass.scans.append (.blanks hb)).append
      (hequals.append ((Scans.blanks hb').append hscan))
    exact ⟨last, by simpa using hall⟩

end Statement

end Railroad
