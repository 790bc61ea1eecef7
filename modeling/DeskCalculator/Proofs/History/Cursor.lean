import DeskCalculator.History
import Mathlib.Data.List.Basic

namespace DeskCalculator.History

variable {α : Type}

theorem moveTo?_eq_some_iff {h h' : History α} {position : Nat} {a : α} :
    h.moveTo? position = some (a, h') ↔
      h.entries[position - 1]? = some a ∧ h' = { h with position } := by
  simp only [moveTo?, Option.map_eq_some_iff, Prod.mk.injEq]
  constructor
  · intro hm
    obtain ⟨b, hb, rfl, rfl⟩ := hm
    exact ⟨hb, rfl⟩
  · intro hm
    obtain ⟨ha, rfl⟩ := hm
    exact ⟨a, ha, rfl, rfl⟩

theorem isSome_moveTo? {h : History α} {position : Nat} (hp : position - 1 < h.entries.length) :
    (h.moveTo? position).isSome = true := by
  rw [moveTo?, List.getElem?_eq_getElem hp]
  rfl

theorem undo?_eq_some_iff {h : History α} {r : α × History α} :
    h.undo? = some r ↔ 1 < h.position ∧ h.moveTo? (h.position - 1) = some r := by
  rw [undo?, canUndo]
  by_cases hp : 1 < h.position
  · simp [hp]
  · simp [hp]

theorem redo?_eq_some_iff {h : History α} {r : α × History α} :
    h.redo? = some r ↔
      h.position < h.entries.length ∧ h.moveTo? (h.position + 1) = some r := by
  rw [redo?, canRedo]
  by_cases hp : h.position < h.entries.length
  · simp [hp]
  · simp [hp]

theorem canUndo_of_undo? {h : History α} {r : α × History α} (hu : h.undo? = some r) :
    h.canUndo = true := by
  obtain ⟨hp, -⟩ := undo?_eq_some_iff.1 hu
  exact decide_eq_true hp

theorem canRedo_of_redo? {h : History α} {r : α × History α} (hr : h.redo? = some r) :
    h.canRedo = true := by
  obtain ⟨hp, -⟩ := redo?_eq_some_iff.1 hr
  exact decide_eq_true hp

/-- A history whose cursor stands on an entry has one wherever it can move. -/
theorem isSome_undo? {h : History α} (hle : h.position ≤ h.entries.length)
    (hu : h.canUndo = true) : h.undo?.isSome = true := by
  have hp : 1 < h.position := of_decide_eq_true hu
  have hlt : h.position - 1 - 1 < h.entries.length := by omega
  rw [undo?, if_pos hu]
  exact isSome_moveTo? hlt

theorem isSome_redo? {h : History α} (hr : h.canRedo = true) : h.redo?.isSome = true := by
  have hp : h.position < h.entries.length := of_decide_eq_true hr
  rw [redo?, if_pos hr]
  exact isSome_moveTo? hp

theorem current?_of_moveTo? {h h' : History α} {position : Nat} {a : α} (hp : 0 < position)
    (hm : h.moveTo? position = some (a, h')) : h'.current? = some a := by
  obtain ⟨he, rfl⟩ := moveTo?_eq_some_iff.1 hm
  have hne : position ≠ 0 := by omega
  rw [current?, if_neg hne]
  exact he

/-- A push never drops the first entry of a history with a current one. -/
theorem head?_push {h : History α} (hp : 0 < h.position) {b : α} (hb : h.entries.head? = some b)
    (a : α) : (h.push a).entries.head? = some b := by
  have hne : h.position ≠ 0 := by omega
  show (h.entries.take h.position ++ [a]).head? = some b
  rw [List.head?_append, List.head?_take, if_neg hne, hb]
  rfl

/-- Behind the first entry, a push leaves what it keeps and adds what is pushed. -/
theorem mem_tail_push {h : History α} (hp : 0 < h.position) {a b : α}
    (hb : b ∈ (h.push a).entries.tail) : b ∈ h.entries.tail ∨ b = a := by
  change b ∈ (h.entries.take h.position ++ [a]).tail at hb
  obtain ⟨k, hk⟩ : ∃ k, h.position = k + 1 := ⟨h.position - 1, by omega⟩
  cases he : h.entries with
  | nil => simp [he] at hb
  | cons x xs =>
    rw [he, hk, List.take_succ_cons, List.cons_append, List.tail_cons] at hb
    obtain hb | hb := List.mem_append.1 hb
    · exact .inl (List.mem_of_mem_take hb)
    · exact .inr (List.mem_singleton.1 hb)

theorem current?_eq_some_iff {h : History α} {a : α} :
    h.current? = some a ↔
      ∃ xs ys, h.entries = xs ++ a :: ys ∧ h.position = xs.length + 1 := by
  unfold current?
  split_ifs with hp
  · simp [hp]
  · constructor
    · intro ha
      obtain ⟨hlt, rfl⟩ := List.getElem?_eq_some_iff.1 ha
      refine ⟨h.entries.take (h.position - 1), h.entries.drop (h.position - 1 + 1), ?_, ?_⟩
      · rw [← List.drop_eq_getElem_cons hlt, List.take_append_drop]
      · rw [List.length_take]
        omega
    · intro h
      obtain ⟨xs, ys, he, hx⟩ := h
      rw [he, hx]
      simp

/-- Entries are unmarked where the cursor stands on none of them. -/
theorem marked_of_ne (xs : List α) (k position : Nat)
    (h : ∀ i, k ≤ i → i < k + xs.length → i + 1 ≠ position) :
    (xs.zipIdx k).map (fun (a, i) => (a, i + 1 == position)) = xs.map (·, false) := by
  induction xs generalizing k with
  | nil => rfl
  | cons x xs ih =>
    have hx : (k + 1 == position) = false := by
      have hk := h k (Nat.le_refl k) (by simp)
      simpa using hk
    have hxs : ∀ i, k + 1 ≤ i → i < k + 1 + xs.length → i + 1 ≠ position := by
      intro i hi hlt
      exact h i (by omega) (by simp only [List.length_cons]; omega)
    rw [List.zipIdx_cons, List.map_cons, ih (k + 1) hxs]
    change (x, k + 1 == position) :: _ = _
    rw [hx]
    rfl

theorem map_fst_marked (h : History α) : h.marked.map (·.1) = h.entries := by
  rw [marked, List.map_map]
  exact List.zipIdx_map_fst 0 h.entries

theorem marked_eq {h : History α} {xs ys : List α} {a : α} (he : h.entries = xs ++ a :: ys)
    (hp : h.position = xs.length + 1) :
    h.marked = xs.map (·, false) ++ (a, true) :: ys.map (·, false) := by
  rw [marked, he, hp, List.zipIdx_append, List.map_append, List.zipIdx_cons, List.map_cons]
  rw [marked_of_ne xs 0 _ (by intro i _ hi; omega),
    marked_of_ne ys _ _ (by intro i hi _; omega)]
  simp

end DeskCalculator.History
