namespace Railroad

variable {ε σ β γ : Type} {a : ExceptT ε (StateM σ) β} {f : β → ExceptT ε (StateM σ) γ} {b : β}
  {c : γ} {e : ε} {s s' s'' : σ}

/-- The action goes well from a state, with a value and in another state. -/
def Runs (a : ExceptT ε (StateM σ) β) (s : σ) (b : β) (s' : σ) : Prop :=
  (a.run.run s).run = (.ok b, s')

def Fails (a : ExceptT ε (StateM σ) β) (s : σ) (e : ε) (s' : σ) : Prop :=
  (a.run.run s).run = (.error e, s')

theorem bind_eq_ok {x : Except ε β} {g : β → Except ε γ} :
    x >>= g = .ok c ↔ ∃ b, x = .ok b ∧ g b = .ok c := by
  constructor
  · intro h
    cases x with
    | error e => cases h
    | ok b => exact ⟨b, rfl, h⟩
  · rintro ⟨b, rfl, h⟩
    exact h

theorem mapM_eq_ok {step : β → Except ε γ} {g : β → γ} {bs : List β}
    (h : ∀ b ∈ bs, step b = .ok (g b)) : bs.mapM step = .ok (bs.map g) := by
  induction bs with
  | nil => rfl
  | cons b bs ih =>
    obtain ⟨hb, hbs⟩ := List.forall_mem_cons.mp h
    rw [List.mapM_cons, hb, ih hbs]
    rfl

theorem run_bind (a : ExceptT ε (StateM σ) β) (f : β → ExceptT ε (StateM σ) γ) (s : σ) :
    ((a >>= f).run.run s).run = match (a.run.run s).run with
      | (.ok b, s') => ((f b).run.run s').run
      | (.error e, s') => (.error e, s') := by
  change ((ExceptT.bindCont f (a.run.run s).1).run (a.run.run s).2).run = _
  rcases a.run.run s with ⟨_ | _, _⟩ <;> rfl

@[simp]
theorem runs_pure {b' : β} : Runs (pure b : ExceptT ε (StateM σ) β) s b' s' ↔ b = b' ∧ s = s' := by
  change ((.ok b, s) : Except ε β × σ) = (.ok b', s') ↔ _
  simp

@[simp]
theorem runs_throw : ¬Runs (throw e : ExceptT ε (StateM σ) β) s b s' := by
  change ¬((.error e, s) : Except ε β × σ) = (.ok b, s')
  simp

@[simp]
theorem runs_get {t : σ} : Runs (get : ExceptT ε (StateM σ) σ) s t s' ↔ s = t ∧ s = s' := by
  change ((.ok s, s) : Except ε σ × σ) = (.ok t, s') ↔ _
  simp

@[simp]
theorem runs_set {t : σ} {u : PUnit} :
    Runs (set t : ExceptT ε (StateM σ) PUnit) s u s' ↔ t = s' := by
  change ((.ok ⟨⟩, t) : Except ε PUnit × σ) = (.ok u, s') ↔ _
  simp

@[simp]
theorem runs_modify {g : σ → σ} {u : PUnit} :
    Runs (modify g : ExceptT ε (StateM σ) PUnit) s u s' ↔ g s = s' := by
  change ((.ok ⟨⟩, g s) : Except ε PUnit × σ) = (.ok u, s') ↔ _
  simp

theorem runs_ite {q : Prop} [Decidable q] {a' : ExceptT ε (StateM σ) β} :
    Runs (if q then a else a') s b s' ↔ if q then Runs a s b s' else Runs a' s b s' := by
  split <;> rfl

theorem runs_bind :
    Runs (a >>= f) s c s'' ↔ ∃ b s', Runs a s b s' ∧ Runs (f b) s' c s'' := by
  unfold Runs
  rw [run_bind]
  rcases (a.run.run s).run with ⟨_ | b, s'⟩
  · simp
  · constructor
    · exact fun h => ⟨b, s', rfl, h⟩
    · rintro ⟨_, _, hb, h⟩
      cases hb
      exact h

theorem Runs.bind (h : Runs a s b s') (hf : Runs (f b) s' c s'') : Runs (a >>= f) s c s'' :=
  runs_bind.mpr ⟨b, s', h, hf⟩

theorem fails_throw : Fails (throw e : ExceptT ε (StateM σ) β) s e s := rfl

theorem Fails.bind (h : Fails a s e s') : Fails (a >>= f) s e s' := by
  unfold Fails at h ⊢
  rw [run_bind, h]

theorem Runs.bind_fails (h : Runs a s b s') (hf : Fails (f b) s' e s'') :
    Fails (a >>= f) s e s'' := by
  unfold Runs at h
  unfold Fails at hf ⊢
  rw [run_bind, h]
  exact hf

theorem runs_forM_cons {ι : Type} {x : ι} {xs : List ι} {g : ι → ExceptT ε (StateM σ) PUnit}
    {u : PUnit} : Runs ((x :: xs).forM g) s u s'' ↔
      ∃ s', Runs (g x) s ⟨⟩ s' ∧ Runs (xs.forM g) s' u s'' := by
  change Runs (g x >>= fun _ => xs.forM g) s u s'' ↔ _
  rw [runs_bind]
  exact ⟨fun ⟨_, t, h⟩ => ⟨t, h⟩, fun ⟨t, h⟩ => ⟨⟨⟩, t, h⟩⟩

theorem runs_forM_congr {ι : Type} {xs : List ι} {g g' : ι → ExceptT ε (StateM σ) PUnit}
    {u : PUnit} (h : ∀ x s u s', Runs (g x) s u s' ↔ Runs (g' x) s u s') :
    Runs (xs.forM g) s u s' ↔ Runs (xs.forM g') s u s' := by
  induction xs generalizing s with
  | nil => rfl
  | cons x xs ih => simp only [runs_forM_cons, h, ih]

/-- To handle failures by failing does not change what goes well. -/
theorem runs_tryCatch {handle : ε → ExceptT ε (StateM σ) β}
    (hh : ∀ e s b s', ¬Runs (handle e) s b s') :
    Runs (tryCatch a handle) s b s' ↔ Runs a s b s' := by
  have hrun : ((tryCatch a handle).run.run s).run = match (a.run.run s).run with
      | (.ok b, s') => (.ok b, s')
      | (.error e, s') => ((handle e).run.run s').run := by
    simp only [tryCatch, tryCatchThe, MonadExceptOf.tryCatch, ExceptT.tryCatch, ExceptT.run,
      ExceptT.mk, StateT.run, bind, StateT.bind, pure]
    rcases a s with ⟨_ | _, _⟩ <;> rfl
  unfold Runs at hh ⊢
  rw [hrun]
  rcases (a.run.run s).run with ⟨e | _, t⟩
  · simpa using hh e t b s'
  · rfl

end Railroad
