import Mathlib.Data.List.Forall2

namespace DeskCalculator

variable {α β ε : Type}

theorem bind_eq_ok_iff {x : Except ε α} {f : α → Except ε β} {b : β} :
    x >>= f = .ok b ↔ ∃ a, x = .ok a ∧ f a = .ok b := by
  cases x <;> simp [bind, Except.bind]

theorem bind_eq_error_iff {x : Except ε α} {f : α → Except ε β} {e : ε} :
    x >>= f = .error e ↔ x = .error e ∨ ∃ a, x = .ok a ∧ f a = .error e := by
  cases x <;> simp [bind, Except.bind]

theorem map_eq_ok_iff {x : Except ε α} {f : α → β} {b : β} :
    x.map f = .ok b ↔ ∃ a, x = .ok a ∧ f a = b := by
  cases x <;> simp [Except.map]

theorem map_eq_error_iff {x : Except ε α} {f : α → β} {e : ε} :
    x.map f = .error e ↔ x = .error e := by
  cases x <;> simp [Except.map]

theorem mapM_eq_ok_iff {g : α → Except ε β} {xs : List α} {ys : List β} :
    xs.mapM g = .ok ys ↔ List.Forall₂ (fun x y => g x = .ok y) xs ys := by
  induction xs generalizing ys with
  | nil =>
    rw [List.forall₂_nil_left_iff]
    exact ⟨fun h => (Except.ok.inj h).symm, fun h => h ▸ rfl⟩
  | cons x xs ih =>
    rw [List.mapM_cons, bind_eq_ok_iff, List.forall₂_cons_left_iff]
    constructor
    · intro h
      obtain ⟨y, hy, h⟩ := h
      obtain ⟨ys', hys, h⟩ := bind_eq_ok_iff.1 h
      cases h
      exact ⟨y, ys', hy, ih.1 hys, rfl⟩
    · intro h
      obtain ⟨y, ys', hy, hys, rfl⟩ := h
      refine ⟨y, hy, ?_⟩
      rw [ih.2 hys]
      rfl

theorem exists_mapM_eq_ok_iff {g : α → Except ε β} {xs : List α} :
    (∃ ys, xs.mapM g = .ok ys) ↔ ∀ x ∈ xs, ∃ y, g x = .ok y := by
  simp only [mapM_eq_ok_iff]
  induction xs with
  | nil => simp
  | cons x xs ih =>
    rw [List.forall_mem_cons, ← ih]
    constructor
    · intro h
      obtain ⟨ys, h⟩ := h
      cases h with
      | cons hy hys => exact ⟨⟨_, hy⟩, _, hys⟩
    · intro h
      obtain ⟨⟨y, hy⟩, ys, hys⟩ := h
      exact ⟨y :: ys, .cons hy hys⟩

/-- The fault is the one of the first element that has any. -/
theorem mapM_eq_error_iff {g : α → Except ε β} {xs : List α} {e : ε} :
    xs.mapM g = .error e ↔
      ∃ ys x zs, xs = ys ++ x :: zs ∧ (∀ y ∈ ys, ∃ b, g y = .ok b) ∧ g x = .error e := by
  induction xs with
  | nil =>
    constructor
    · intro h
      cases h
    · intro h
      obtain ⟨ys, x, zs, h, -⟩ := h
      cases ys <;> cases h
  | cons x xs ih =>
    rw [List.mapM_cons, bind_eq_error_iff]
    constructor
    · intro h
      obtain hx | ⟨b, hb, h⟩ := h
      · exact ⟨[], x, xs, rfl, by simp, hx⟩
      · obtain hxs | ⟨bs, -, h⟩ := bind_eq_error_iff.1 h
        · obtain ⟨ys, z, zs, rfl, hys, hz⟩ := ih.1 hxs
          refine ⟨x :: ys, z, zs, rfl, ?_, hz⟩
          intro y hy
          rcases List.mem_cons.1 hy with rfl | hy
          · exact ⟨b, hb⟩
          · exact hys y hy
        · cases h
    · intro h
      obtain ⟨ys, z, zs, he, hys, hz⟩ := h
      cases ys with
      | nil =>
        cases he
        exact .inl hz
      | cons y ys =>
        obtain ⟨rfl, rfl⟩ := List.cons.inj he
        obtain ⟨b, hb⟩ := hys x (by simp)
        have hrest := ih.2 ⟨ys, z, zs, rfl, fun w hw => hys w (List.mem_cons_of_mem _ hw), hz⟩
        exact .inr ⟨b, hb, bind_eq_error_iff.2 (.inl hrest)⟩

theorem exists_of_mapM_eq_error {g : α → Except ε β} {xs : List α} {e : ε}
    (h : xs.mapM g = .error e) : ∃ x ∈ xs, g x = .error e := by
  obtain ⟨ys, x, zs, rfl, -, hx⟩ := mapM_eq_error_iff.1 h
  exact ⟨x, by simp, hx⟩

/-- A run of steps stops at the first step that fails, in the state that those before it lead to. -/
theorem foldlM_eq_error_iff {step : β → α → Except ε β} {xs : List α} {b : β} {e : ε} :
    xs.foldlM step b = .error e ↔
      ∃ ys x zs c, xs = ys ++ x :: zs ∧ ys.foldlM step b = .ok c ∧ step c x = .error e := by
  constructor
  · intro h
    induction xs generalizing b with
    | nil => cases h
    | cons x xs ih =>
      rw [List.foldlM_cons, bind_eq_error_iff] at h
      obtain hx | ⟨b', hb', h⟩ := h
      · exact ⟨[], x, xs, b, rfl, rfl, hx⟩
      · obtain ⟨ys, z, zs, c, rfl, hys, hz⟩ := ih h
        refine ⟨x :: ys, z, zs, c, rfl, ?_, hz⟩
        rw [List.foldlM_cons, hb']
        exact hys
  · intro h
    obtain ⟨ys, x, zs, c, rfl, hys, hx⟩ := h
    rw [List.foldlM_append, hys]
    change List.foldlM step c (x :: zs) = _
    rw [List.foldlM_cons, hx]
    rfl

end DeskCalculator
