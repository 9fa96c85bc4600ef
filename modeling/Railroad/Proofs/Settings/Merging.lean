import Railroad.Proofs.Members
import Railroad.Proofs.Settings.Validation
import Railroad.Settings.Source

namespace Railroad

namespace SettingValue

variable {key : String} {base newer : SettingMembers} {old : Option SettingValue}

theorem override_nil (base : SettingMembers) : override base [] = base := by
  rw [override]

theorem override_cons (base : SettingMembers) (k : String) (v : SettingValue)
    (rest : SettingMembers) : override base ((k, v) :: rest) =
      override (Members.put k (overrideValue (Members.get? k base) v) base) rest := by
  rw [override]

theorem get?_override_of_absent (h : Members.get? key newer = none) :
    Members.get? key (override base newer) = Members.get? key base := by
  induction newer generalizing base with
  | nil => rw [override_nil]
  | cons m newer ih =>
    rw [Members.get?_cons] at h
    split at h
    · cases h
    · rename_i hm
      rw [override_cons, ih h, Members.get?_put, if_neg hm]

theorem isSome_get?_override (key : String) (base newer : SettingMembers) :
    (Members.get? key (override base newer)).isSome =
      ((Members.get? key base).isSome || (Members.get? key newer).isSome) := by
  induction newer generalizing base with
  | nil => rw [override_nil]; simp [Members.get?]
  | cons m newer ih =>
    rw [override_cons, ih, Members.get?_put, Members.get?_cons]
    split <;> simp

def givesKey (key : String) (v : Option SettingValue) : Bool :=
  (members? v).any fun ms => (Members.get? key ms).isSome

theorem members?_some {v : SettingValue} {members : SettingMembers} :
    members? (some v) = some members ↔ v = .mapping members := by
  cases v <;> simp [members?]

theorem givesKey_overrideValue (key : String) (old : Option SettingValue)
    (newer : SettingMembers) : givesKey key (some (overrideValue old (.mapping newer))) =
      (givesKey key old || givesKey key (some (.mapping newer))) := by
  rw [overrideValue.eq_def]
  dsimp only
  split
  · exact isSome_get?_override key _ newer
  · rename_i hold
    have hnone : givesKey key old = false := by
      cases old with
      | none => rfl
      | some v =>
        cases v with
        | mapping base => exact absurd rfl (hold base)
        | _ => rfl
    rw [hnone, Bool.false_or]

theorem eq_mapping_of_overrideValue {v : SettingValue} {members : SettingMembers}
    (h : overrideValue old v = .mapping members) : ∃ newer, v = .mapping newer := by
  rw [overrideValue.eq_def] at h
  split at h
  · exact ⟨_, rfl⟩
  · exact ⟨members, h⟩

theorem isSome_get?_merged {name : String} {v : Option SettingValue}
    {rest members : SettingMembers} (hrest : Members.get? name rest = none)
    (h : members? (Members.get? name (override base ((v.map (name, ·)).toList ++ rest))) =
      some members) (key : String) :
    (Members.get? key members).isSome =
      (givesKey key (Members.get? name base) || givesKey key v) := by
  cases v with
  | none =>
    rw [Option.map_none, Option.toList_none, List.nil_append, get?_override_of_absent hrest] at h
    rw [givesKey, givesKey, h]
    exact (Bool.or_false _).symm
  | some w =>
    rw [Option.map_some, Option.toList_some, List.singleton_append, override_cons,
      get?_override_of_absent hrest, Members.get?_put, if_pos rfl, members?_some] at h
    obtain ⟨newer, rfl⟩ := eq_mapping_of_overrideValue h
    rw [← givesKey_overrideValue, h, givesKey]
    rfl

end SettingValue

/-- A fold whose steps append members with the key of the step appends members with the keys. -/
theorem foldlM_appends {β ε : Type} {f : Members β → String → Except ε (Members β)}
    (hf : ∀ {ms : Members β} {key : String} {ms' : Members β}, f ms key = .ok ms' →
      ∃ more, ms' = ms ++ more ∧ ∀ m ∈ more, m.1 = key)
    {keys : List String} {ms ms' : Members β} (h : keys.foldlM f ms = .ok ms') :
    ∃ more, ms' = ms ++ more ∧ ∀ m ∈ more, m.1 ∈ keys := by
  induction keys generalizing ms with
  | nil =>
    cases h
    exact ⟨[], (List.append_nil _).symm, fun m hm => nomatch hm⟩
  | cons key keys ih =>
    rw [List.foldlM_cons] at h
    obtain ⟨mid, hmid, h⟩ := bind_eq_ok.mp h
    obtain ⟨more, rfl, hmore⟩ := hf hmid
    obtain ⟨more', rfl, hmore'⟩ := ih h
    refine ⟨more ++ more', List.append_assoc .., fun m hm => ?_⟩
    rcases List.mem_append.mp hm with hm | hm
    · exact hmore m hm ▸ List.mem_cons_self
    · exact List.mem_cons_of_mem key (hmore' m hm)

/-- What one key adds to the members of an environment. -/
theorem appends_member {ms ms' : SettingMembers} {key : String} {v : Option SettingValue}
    (h : (match v with | some v => ms ++ [(key, v)] | none => ms) = ms') :
    ms' = ms ++ (v.map (key, ·)).toList := by
  cases v with
  | none => exact h ▸ (List.append_nil ms).symm
  | some v => exact h.symm

theorem environmentMembers_layout {env : Environment} {ms : SettingMembers}
    (h : environmentMembers env = .ok ms) : ∃ layout rest,
      sectionSource env "layout" = .ok layout ∧ Members.get? "layout" rest = none ∧
        ms = (layout.map ("layout", ·)).toList ++ rest := by
  obtain ⟨mid, hmid, h⟩ := bind_eq_ok.mp h
  obtain ⟨layout, hlayout, hmid⟩ := bind_eq_ok.mp hmid
  have hmid := appends_member (Except.ok.inj hmid)
  rw [List.nil_append] at hmid
  subst hmid
  -- The other keys only append members of their own.
  have hothers : ∃ rest, ms = (layout.map ("layout", ·)).toList ++ rest ∧
      ∀ m ∈ rest, m.1 ∈ ["measure", "on_error", "output_dir", "log_level"] := by
    refine foldlM_appends (fun {ms key ms'} hstep => ?_) h
    obtain ⟨v, hv⟩ : ∃ v : Option SettingValue,
        (match v with | some v => ms ++ [(key, v)] | none => ms) = ms' := by
      split at hstep
      all_goals
        obtain ⟨v, -, hv⟩ := bind_eq_ok.mp hstep
        exact ⟨v, Except.ok.inj hv⟩
    refine ⟨_, appends_member hv, ?_⟩
    rintro ⟨k, w⟩ hm
    obtain ⟨u, -, hu⟩ := Option.map_eq_some_iff.mp (Option.mem_toList.mp hm)
    exact (congrArg Prod.fst hu).symm
  obtain ⟨rest, rfl, hrest⟩ := hothers
  refine ⟨layout, rest, hlayout, Members.get?_eq_none fun m hm hkey => ?_, rfl⟩
  exact absurd (hkey ▸ hrest m hm) (by decide)

end Railroad
