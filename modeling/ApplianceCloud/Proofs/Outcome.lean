import Mathlib.Data.List.Forall2

namespace ApplianceCloud

variable {ε α β : Type} {first : Except ε α} {rest : α → Except ε β}

@[simp] theorem ok_bind (a : α) : ((.ok a : Except ε α) >>= rest) = rest a := rfl

@[simp] theorem error_bind (failure : ε) : ((.error failure : Except ε α) >>= rest) = .error failure :=
  rfl

theorem bind_eq_ok_iff {b : β} :
    (first >>= rest) = .ok b ↔ ∃ a, first = .ok a ∧ rest a = .ok b := by
  cases first <;> simp [bind, Except.bind]

theorem map_eq_ok_iff {f : α → β} {b : β} : first.map f = .ok b ↔ ∃ a, first = .ok a ∧ f a = b := by
  cases first <;> simp [Except.map]

theorem map_eq_error_iff {f : α → β} {failure : ε} :
    first.map f = .error failure ↔ first = .error failure := by
  cases first <;> simp [Except.map]

@[simp] theorem pure_eq_ok_iff {a b : α} : (pure a : Except ε α) = .ok b ↔ a = b := by
  simp [pure, Except.pure]

@[simp] theorem pure_ne_error {a : α} {failure : ε} :
    (pure a : Except ε α) ≠ .error failure := by
  simp [pure, Except.pure]

theorem exists_first_cons_iff {GoesOn Stops : α → Prop} {item : α} {items : List α} :
    (∃ before last after, item :: items = before ++ last :: after ∧
        (∀ earlier ∈ before, GoesOn earlier) ∧ Stops last) ↔
      Stops item ∨ GoesOn item ∧ ∃ before last after, items = before ++ last :: after ∧
        (∀ earlier ∈ before, GoesOn earlier) ∧ Stops last := by
  constructor
  · rintro ⟨before, last, after, split, good, stops⟩
    cases before with
    | nil =>
      cases split
      exact .inl stops
    | cons earlier before =>
      cases split
      obtain ⟨here, later⟩ := List.forall_mem_cons.1 good
      exact .inr ⟨here, before, last, after, rfl, later, stops⟩
  · rintro (stops | ⟨here, before, last, after, rfl, good, stops⟩)
    · exact ⟨[], item, items, rfl, nofun, stops⟩
    · exact ⟨item :: before, last, after, rfl, List.forall_mem_cons.2 ⟨here, good⟩, stops⟩

theorem mapM_eq_ok_iff {read : α → Except ε β} {items : List α} {results : List β} :
    items.mapM read = .ok results ↔ List.Forall₂ (fun a b => read a = .ok b) items results := by
  induction items generalizing results with
  | nil => cases results <;> simp [pure, Except.pure]
  | cons item rest ih =>
    simp only [List.mapM_cons, bind_eq_ok_iff, pure_eq_ok_iff, ih, List.forall₂_cons_left_iff]
    constructor
    · rintro ⟨b, read, others, later, rfl⟩
      exact ⟨b, others, read, later, rfl⟩
    · rintro ⟨b, others, read, later, rfl⟩
      exact ⟨b, read, others, later, rfl⟩

theorem mapM_eq_error_iff {read : α → Except ε β} {items : List α} {failure : ε} :
    items.mapM read = .error failure ↔ ∃ before item after, items = before ++ item :: after ∧
      (∀ earlier ∈ before, ∃ b, read earlier = .ok b) ∧ read item = .error failure := by
  induction items with
  | nil => simp
  | cons item rest ih =>
    rw [exists_first_cons_iff, ← ih]
    cases here : read item with
    | error fault => simp [List.mapM_cons, here, bind, Except.bind]
    | ok b =>
      cases others : rest.mapM read <;>
        simp [List.mapM_cons, here, others, bind, Except.bind, pure, Except.pure]

theorem exists_mapM_eq_error_iff {read : α → Except ε β} {items : List α} :
    (∃ failure, items.mapM read = .error failure) ↔
      ∃ item ∈ items, ∃ failure, read item = .error failure := by
  induction items with
  | nil => simp
  | cons item rest ih =>
    rw [List.exists_mem_cons_iff, ← ih]
    cases here : read item with
    | error fault => simp [List.mapM_cons, here, bind, Except.bind]
    | ok b =>
      cases others : rest.mapM read <;>
        simp [List.mapM_cons, here, others, bind, Except.bind, pure, Except.pure]

section Steps

variable {σ τ : Type} {step : σ → α → Except ε σ} {items : List α}

theorem foldlM_simulates {step' : τ → α → Except ε τ} (Related : τ → σ → Prop)
    (simulates : ∀ s t item next, Related t s → step s item = .ok next →
      ∃ next', step' t item = .ok next' ∧ Related next' next)
    {s last : σ} {t : τ} (related : Related t s) (run : items.foldlM step s = .ok last) :
    ∃ last', items.foldlM step' t = .ok last' ∧ Related last' last := by
  induction items generalizing s t with
  | nil =>
    cases run
    exact ⟨t, rfl, related⟩
  | cons item rest ih =>
    rw [List.foldlM_cons] at run
    obtain ⟨next, first, others⟩ := bind_eq_ok_iff.1 run
    obtain ⟨next', first', related⟩ := simulates s t item next related first
    obtain ⟨last', others', related⟩ := ih related others
    exact ⟨last', bind_eq_ok_iff.2 ⟨next', first', others'⟩, related⟩

theorem foldlM_congr {step' : σ → α → Except ε σ}
    (same : ∀ item ∈ items, ∀ s, step s item = step' s item) (s : σ) :
    items.foldlM step s = items.foldlM step' s := by
  induction items generalizing s with
  | nil => rfl
  | cons item rest ih =>
    obtain ⟨here, later⟩ := List.forall_mem_cons.1 same
    rw [List.foldlM_cons, List.foldlM_cons, here]
    exact congrArg (step' s item >>= ·) (funext (ih later))

end Steps

end ApplianceCloud
