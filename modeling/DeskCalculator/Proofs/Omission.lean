import DeskCalculator.Trace
import Mathlib.Data.List.Basic

namespace DeskCalculator

variable {σ ι ω α β : Type}

/-- A list without its members at the positions in a set. -/
def without (gone : Nat → Bool) : List α → List α
  | [] => []
  | x :: xs =>
    if gone 0 then without (fun k => gone (k + 1)) xs
    else x :: without (fun k => gone (k + 1)) xs

theorem without_cons_of_gone {gone : Nat → Bool} (h : gone 0 = true) (x : α) (xs : List α) :
    without gone (x :: xs) = without (fun k => gone (k + 1)) xs := if_pos h

theorem without_cons_of_kept {gone : Nat → Bool} (h : gone 0 = false) (x : α) (xs : List α) :
    without gone (x :: xs) = x :: without (fun k => gone (k + 1)) xs := by
  rw [without, h]
  rfl

theorem getElem?_trace (step : σ → ι → ω × σ) (s : σ) (is : List ι) (k : Nat) :
    (trace step s is)[k]? = is[k]?.map (step (finalState step s (is.take k))) := by
  induction is generalizing s k with
  | nil => rfl
  | cons i is ih =>
    cases k with
    | zero => rfl
    | succ k => exact ih (step s i).2 k

/-- The steps of a run at the positions in a set leave the state as it was. -/
def IdleAt (step : σ → ι → ω × σ) (s : σ) (is : List ι) (gone : Nat → Bool) : Prop :=
  ∀ k i, gone k = true → is[k]? = some i →
    (step (finalState step s (is.take k)) i).2 = finalState step s (is.take k)

variable {step : σ → ι → ω × σ} {s : σ} {is : List ι} {gone : Nat → Bool}

theorem IdleAt.head {i : ι} (h : IdleAt step s (i :: is) gone) (h0 : gone 0 = true) :
    (step s i).2 = s := h 0 i h0 rfl

theorem IdleAt.tail {i : ι} (h : IdleAt step s (i :: is) gone) :
    IdleAt step (step s i).2 is fun k => gone (k + 1) := by
  intro k j hk hj
  exact h (k + 1) j hk hj

theorem trace_without (h : IdleAt step s is gone) :
    trace step s (without gone is) = without gone (trace step s is) := by
  induction is generalizing s gone with
  | nil => rfl
  | cons i is ih =>
    have hrest := ih h.tail
    cases h0 : gone 0 with
    | true =>
      rw [h.head h0] at hrest
      rw [without_cons_of_gone h0, hrest, trace, without_cons_of_gone h0, h.head h0]
    | false =>
      rw [without_cons_of_kept h0, trace, hrest, trace, without_cons_of_kept h0]

theorem finalState_without (h : IdleAt step s is gone) :
    finalState step s (without gone is) = finalState step s is := by
  induction is generalizing s gone with
  | nil => rfl
  | cons i is ih =>
    have hrest := ih h.tail
    cases h0 : gone 0 with
    | true =>
      rw [h.head h0] at hrest
      rw [without_cons_of_gone h0, hrest]
      change _ = finalState step (step s i).2 is
      rw [h.head h0]
    | false =>
      rw [without_cons_of_kept h0]
      exact hrest

end DeskCalculator
