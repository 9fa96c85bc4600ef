import Railroad.Members

namespace Railroad.Members

variable {β γ : Type} {key k : String} {v : β} {ms ns : Members β} {f : γ → β} {o : Option γ}

theorem get?_nil (key : String) : get? key ([] : Members β) = none := rfl

theorem get?_cons (key k : String) (v : β) (ms : Members β) :
    get? key ((k, v) :: ms) = if k = key then some v else get? key ms := by
  by_cases h : k = key
  · rw [if_pos h, h, get?, List.lookup_cons_self]
  · rw [if_neg h, get?, List.lookup_cons, beq_false_of_ne (Ne.symm h)]
    rfl

theorem get?_append (key : String) (ms ns : Members β) :
    get? key (ms ++ ns) = (get? key ms).or (get? key ns) := List.lookup_append

theorem get?_ite (key : String) (p : Prop) [Decidable p] (ms ns : Members β) :
    get? key (if p then ms else ns) = if p then get? key ms else get? key ns := by
  split <;> rfl

theorem get?_optional (key k : String) (f : γ → β) (o : Option γ) :
    get? key (o.map fun x => (k, f x)).toList = if k = key then o.map f else none := by
  cases o with
  | none => simp [get?_nil]
  | some x => simp [get?_cons, get?_nil]

theorem forall_mem_optional {P : String × β → Prop} :
    (∀ m ∈ (o.map fun x => (k, f x)).toList, P m) ↔ ∀ x ∈ o, P (k, f x) := by
  cases o <;> simp

theorem get?_put (key k : String) (v : β) (ms : Members β) :
    get? key (put k v ms) = if k = key then some v else get? key ms := by
  induction ms with
  | nil => rw [put, get?_cons]
  | cons m ms ih =>
    rw [put, get?_cons]
    split
    · rename_i hk
      rw [get?_cons, hk]
      split <;> rfl
    · rename_i hk
      rw [get?_cons, ih]
      split
      · rename_i hm
        rw [if_neg (fun hkey => hk (hm.trans hkey.symm))]
      · rfl

theorem get?_eq_none (h : ∀ m ∈ ms, m.1 ≠ key) : get? key ms = none := by
  induction ms with
  | nil => rfl
  | cons m ms ih =>
    obtain ⟨hm, hms⟩ := List.forall_mem_cons.mp h
    rw [get?_cons, if_neg hm, ih hms]

end Railroad.Members
