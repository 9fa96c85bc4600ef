import Railroad.Proofs.Settings.Merging

namespace Railroad

section

open Float.Model

variable {a b : UnpackedFloat} {x y : Float}

theorem compare_swap (a b : UnpackedFloat) : b.compare a = (a.compare b).map Ordering.swap := by
  have hfinite : ∀ (e e' : Int) (m m' : Nat),
      (compare e' e).then (compare m' m) = ((compare e e').then (compare m m')).swap := by
    intro e e' m m'
    rw [Ordering.swap_then, Int.compare_swap, Nat.compare_swap]
  cases a with
  | notANumber => cases b <;> rfl
  | infinity s =>
    cases b with
    | notANumber | zero => cases s <;> rfl
    | infinity t | finite t => cases s <;> cases t <;> rfl
  | zero s =>
    cases b with
    | notANumber | zero => rfl
    | infinity t | finite t => cases t <;> rfl
  | finite s m e =>
    cases b with
    | notANumber | zero => cases s <;> rfl
    | infinity t => cases s <;> cases t <;> rfl
    | finite t m' e' =>
      cases s <;> cases t
      · exact congrArg (some ·.swap) (hfinite e e' m m')
      · rfl
      · rfl
      · exact congrArg some (hfinite e e' m m')

theorem exists_compare (ha : a ≠ .notANumber) (hb : b ≠ .notANumber) :
    ∃ o, a.compare b = some o := by
  cases a with
  | notANumber => exact absurd rfl ha
  | infinity s | zero s | finite s =>
    cases b with
    | notANumber => exact absurd rfl hb
    | infinity t | zero t | finite t => cases s <;> cases t <;> exact ⟨_, rfl⟩

theorem unpack_ne_notANumber (h : Bound.nonnegative.holds x) :
    x.toModel.unpack ≠ .notANumber := by
  intro hx
  have hle : (0 : Float).toModel.unpack.le x.toModel.unpack = true :=
    of_decide_eq_true (of_decide_eq_true h)
  rw [hx] at hle
  cases hle

theorem float_le_iff_not_lt (hx : Bound.nonnegative.holds x) (hy : Bound.nonnegative.holds y) :
    y ≤ x ↔ ¬x < y := by
  obtain ⟨o, ho⟩ := exists_compare (unpack_ne_notANumber hx) (unpack_ne_notANumber hy)
  have hle : y ≤ x ↔ (o.swap = .lt ∨ o.swap = .eq) := by
    change decide (y.toModel.unpack.le x.toModel.unpack = true) = true ↔ _
    rw [decide_eq_true_eq, UnpackedFloat.le, compare_swap, ho]
    cases o <;> decide
  have hlt : x < y ↔ o = .lt := by
    change decide (x.toModel.unpack.lt y.toModel.unpack = true) = true ↔ _
    rw [decide_eq_true_eq, UnpackedFloat.lt, ho]
    cases o <;> decide
  rw [hle, hlt]
  cases o <;> decide

end

section

variable {ms : SettingMembers} {c : Spacing Float} {x margin default : Float}

/-- Stubs that are given fit, and stubs that are not are as long as their default. -/
theorem stubField_eq_ok (h : stubField ms (.ok margin) default = .ok x) :
    (Members.get? "stub_length" ms).isSome ∧ ¬margin < x ∨
      Members.get? "stub_length" ms = none ∧ x = default := by
  obtain ⟨stub, hstub, h⟩ := bind_eq_ok.mp h
  cases hget : Members.get? "stub_length" ms with
  | none =>
    rw [hget] at h
    rw [numberField, hget] at hstub
    cases h
    cases hstub
    exact .inr ⟨rfl, rfl⟩
  | some v =>
    rw [hget] at h
    dsimp only at h
    split at h
    · cases h
    · cases h
      exact .inl ⟨rfl, ‹_›⟩

theorem Spacing.ReadFrom.stub_le_margin_iff (h : c.ReadFrom ms) :
    c.stubLength ≤ c.branchMargin ↔ (Members.get? "stub_length" ms).isSome ∨
      Spacing.standard.stubLength ≤ c.branchMargin := by
  rcases stubField_eq_ok h.stubLength with ⟨hgiven, hfits⟩ | ⟨hget, hdefault⟩
  · exact iff_of_true ((float_le_iff_not_lt h.inBounds.branchMargin h.inBounds.stubLength).mpr hfits)
      (.inl hgiven)
  · rw [hget, hdefault, Option.isSome_none]
    exact (or_iff_right Bool.false_ne_true).symm

end

section

variable {env : Environment} {document : SettingMembers} {s : Settings Float}

def loadedDocument (fs : Files) (env : Environment) (path : Option Path) :
    Except SettingsFault SettingMembers :=
  match documentPath? fs env path with
  | some p => documentMembers fs env p
  | none => .ok []

theorem loadSettings_eq (fs : Files) (env : Environment) (path : Option Path) :
    loadSettings fs env path = loadedDocument fs env path >>= (mergedSettings · env []) := by
  unfold loadSettings loadedDocument
  cases documentPath? fs env path <;> rfl

theorem mergedSettings_layout (h : mergedSettings document env [] = .ok s) :
    ∃ layout members, sectionSource env "layout" = .ok layout ∧
      validSpacing members = .ok s.spacing ∧ ∀ key, (Members.get? key members).isSome =
        (SettingValue.givesKey key (Members.get? "layout" (settingMembers document)) ||
          SettingValue.givesKey key layout) := by
  obtain ⟨ms, hms, h⟩ := bind_eq_ok.mp h
  obtain ⟨layout, rest, hlayout, hrest, rfl⟩ := environmentMembers_layout hms
  obtain ⟨⟨members, hmembers, hspacing⟩, -⟩ := validSettings_sections (mapError_eq_ok.mp h)
  exact ⟨layout, members, hlayout, hspacing, SettingValue.isSome_get?_merged hrest hmembers⟩

end

/-- No distance of a layout that passes the checks is negative.  Its stubs fit into the margin of
its branches just if some source gives the stubs or the default stubs fit: a margin that is given
alone may be smaller. -/
theorem stub_fits_iff (ms : SettingMembers) (fs : Files) (env : Environment)
    (path : Option Path) :
    (∀ c, validSpacing ms = .ok c →
      c.InBounds ∧ (c.stubLength ≤ c.branchMargin ↔ (Members.get? "stub_length" ms).isSome ∨
        Spacing.standard.stubLength ≤ c.branchMargin)) ∧
    ∀ s, loadSettings fs env path = .ok s → ∃ document layout,
      loadedDocument fs env path = .ok document ∧ sectionSource env "layout" = .ok layout ∧
      s.spacing.InBounds ∧ (s.spacing.stubLength ≤ s.spacing.branchMargin ↔
        SettingValue.givesKey "stub_length" (Members.get? "layout" (settingMembers document)) ∨
        SettingValue.givesKey "stub_length" layout ∨
        Spacing.standard.stubLength ≤ s.spacing.branchMargin) := by
  constructor
  · intro c h
    have hread := validSpacing_eq_ok.mp h
    exact ⟨hread.inBounds, hread.stub_le_margin_iff⟩
  · intro s h
    rw [loadSettings_eq] at h
    obtain ⟨document, hdocument, h⟩ := bind_eq_ok.mp h
    obtain ⟨layout, members, hlayout, hspacing, hkeys⟩ := mergedSettings_layout h
    have hread := validSpacing_eq_ok.mp hspacing
    refine ⟨document, layout, hdocument, hlayout, hread.inBounds, ?_⟩
    rw [hread.stub_le_margin_iff, hkeys, Bool.or_eq_true, or_assoc]

theorem exists_ok {ε β : Type} {r : Except ε β} {p : β → Bool} (h : r.toOption.any p) :
    ∃ b, r = .ok b ∧ p b := by
  cases r with
  | error e => cases h
  | ok b => exact ⟨b, rfl, h⟩

def marginDocument : Files :=
  ⟨[(["config", "trailer.yaml"], .file "layout:\n  branch_margin: 5\n".toUTF8)], []⟩

theorem stub_fits_iff_given :
    (∃ c, validSpacing [("stub_length", .integer 15)] = .ok c ∧
      c.stubLength ≤ c.branchMargin) ∧
    ∃ s, loadSettings marginDocument [("TRAILER_LAYOUT__STUB_LENGTH", "4")] none = .ok s ∧
      s.spacing.stubLength ≤ s.spacing.branchMargin := by
  obtain ⟨hsection, hload⟩ := stub_fits_iff [("stub_length", .integer 15)] marginDocument
    [("TRAILER_LAYOUT__STUB_LENGTH", "4")] none
  obtain ⟨c, hc, -⟩ : ∃ c, validSpacing [("stub_length", .integer 15)] = .ok c ∧ true :=
    exists_ok (by decide +kernel)
  obtain ⟨s, hs, -⟩ : ∃ s, loadSettings marginDocument
      [("TRAILER_LAYOUT__STUB_LENGTH", "4")] none = .ok s ∧ true :=
    exists_ok (by decide +kernel)
  obtain ⟨v, hv, hgiven⟩ : ∃ v, sectionSource [("TRAILER_LAYOUT__STUB_LENGTH", "4")] "layout" =
      .ok v ∧ SettingValue.givesKey "stub_length" v := exists_ok (by decide +kernel)
  obtain ⟨_, layout, -, hlayout, -, hfits⟩ := hload s hs
  cases hv.symm.trans hlayout
  exact ⟨⟨c, hc, (hsection c hc).2.mpr (.inl rfl)⟩, s, hs, hfits.mpr (.inr (.inl hgiven))⟩

/-- A margin smaller than the default stubs passes if nothing gives the stubs. -/
theorem stub_exceeds_margin :
    (∃ c, validSpacing [("branch_margin", .integer 5)] = .ok c ∧
      ¬c.stubLength ≤ c.branchMargin) ∧
    ∃ s, loadSettings marginDocument [] none = .ok s ∧
      ¬s.spacing.stubLength ≤ s.spacing.branchMargin := by
  obtain ⟨c, hc, hexceeds⟩ : ∃ c, validSpacing [("branch_margin", .integer 5)] = .ok c ∧
      decide (¬c.stubLength ≤ c.branchMargin) := exists_ok (by decide +kernel)
  obtain ⟨s, hs, hexceeds'⟩ : ∃ s, loadSettings marginDocument [] none = .ok s ∧
      decide (¬s.spacing.stubLength ≤ s.spacing.branchMargin) := exists_ok (by decide +kernel)
  exact ⟨⟨c, hc, of_decide_eq_true hexceeds⟩, s, hs, of_decide_eq_true hexceeds'⟩

end Railroad
