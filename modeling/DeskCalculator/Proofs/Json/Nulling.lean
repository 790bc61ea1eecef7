import DeskCalculator.Json.Basic
import Mathlib.Logic.Basic
import Mathlib.Tactic.SplitIfs

namespace DeskCalculator

/-- Doubles that JSON has no number for: infinities, and what is not a number. -/
def Quantity.Unwritable : Quantity → Prop
  | .count _ => False
  | .double x => x.isNaN = true ∨ x.isInf = true

namespace Json

mutual

/-- The second value has null for every number of the first that cannot be written, and is like it
in all else. -/
inductive Nulled : Json Quantity → Json Quantity → Prop where
  | null : Nulled .null .null
  | bool (b : Bool) : Nulled (.bool b) (.bool b)
  | text (s : String) : Nulled (.text s) (.text s)
  | kept {n : Quantity} : ¬ n.Unwritable → Nulled (.number n) (.number n)
  | nulled {n : Quantity} : n.Unwritable → Nulled (.number n) .null
  | array {vs ws : List (Json Quantity)} : NulledItems vs ws → Nulled (.array vs) (.array ws)
  | object {vs ws : List (String × Json Quantity)} :
    NulledFields vs ws → Nulled (.object vs) (.object ws)

inductive NulledItems : List (Json Quantity) → List (Json Quantity) → Prop where
  | nil : NulledItems [] []
  | cons {v w : Json Quantity} {vs ws : List (Json Quantity)} :
    Nulled v w → NulledItems vs ws → NulledItems (v :: vs) (w :: ws)

inductive NulledFields :
    List (String × Json Quantity) → List (String × Json Quantity) → Prop where
  | nil : NulledFields [] []
  | cons (name : String) {v w : Json Quantity} {vs ws : List (String × Json Quantity)} :
    Nulled v w → NulledFields vs ws → NulledFields ((name, v) :: vs) ((name, w) :: ws)

end

theorem isFinite_iff (x : Float) : x.isFinite = true ↔ x.isNaN = false ∧ x.isInf = false := by
  change x.toModel.unpack.isFinite = true ↔
    x.toModel.unpack.isNaN = false ∧ x.toModel.unpack.isInf = false
  cases x.toModel.unpack with
  | infinity => exact iff_of_false Bool.false_ne_true fun h => Bool.false_ne_true h.2.symm
  | notANumber => exact iff_of_false Bool.false_ne_true fun h => Bool.false_ne_true h.1.symm
  | zero => exact iff_of_true rfl ⟨rfl, rfl⟩
  | finite => exact iff_of_true rfl ⟨rfl, rfl⟩

theorem nulled_ofQuantity (n : Quantity) : Nulled (.number n) (ofQuantity n) := by
  cases n with
  | count n => exact .kept id
  | double x =>
    rw [ofQuantity]
    split_ifs with hx
    · obtain ⟨hnan, hinf⟩ := (isFinite_iff x).1 hx
      exact .kept (not_or.2 ⟨ne_true_of_eq_false hnan, ne_true_of_eq_false hinf⟩)
    · rw [isFinite_iff, not_and_or] at hx
      exact .nulled (hx.imp eq_true_of_ne_false eq_true_of_ne_false)

mutual

theorem nulled_finiteOnly (v : Json Quantity) : Nulled v v.finiteOnly := by
  cases v with
  | null => exact .null
  | bool b => exact .bool b
  | number n => exact nulled_ofQuantity n
  | text s => exact .text s
  | array items => exact .array (nulledItems_replaceItems items)
  | object fields => exact .object (nulledFields_replaceFields fields)

theorem nulledItems_replaceItems (vs : List (Json Quantity)) :
    NulledItems vs (replaceItems ofQuantity vs) := by
  cases vs with
  | nil => exact .nil
  | cons v rest => exact .cons (nulled_finiteOnly v) (nulledItems_replaceItems rest)

theorem nulledFields_replaceFields (vs : List (String × Json Quantity)) :
    NulledFields vs (replaceFields ofQuantity vs) := by
  cases vs with
  | nil => exact .nil
  | cons field rest =>
    exact .cons field.1 (nulled_finiteOnly field.2) (nulledFields_replaceFields rest)

end

end Json

end DeskCalculator
