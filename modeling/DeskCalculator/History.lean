import DeskCalculator.Json.Basic

namespace DeskCalculator

structure History (α : Type) where
  entries : List α
  /-- The number of entries up to and including the current one, zero only while there is none. -/
  position : Nat
  deriving DecidableEq

namespace History

variable {α : Type}

def empty : History α := ⟨[], 0⟩

/-- The entries behind the current one are dropped. -/
def push (h : History α) (a : α) : History α :=
  let entries := h.entries.take h.position ++ [a]
  ⟨entries, entries.length⟩

def canUndo (h : History α) : Bool := decide (1 < h.position)

def canRedo (h : History α) : Bool := decide (h.position < h.entries.length)

/-- The entry that becomes current at a position, and the history with the cursor there. -/
def moveTo? (h : History α) (position : Nat) : Option (α × History α) :=
  h.entries[position - 1]?.map fun a => (a, { h with position })

def undo? (h : History α) : Option (α × History α) :=
  if h.canUndo then h.moveTo? (h.position - 1) else none

def redo? (h : History α) : Option (α × History α) :=
  if h.canRedo then h.moveTo? (h.position + 1) else none

def current? (h : History α) : Option α :=
  if h.position = 0 then none else h.entries[h.position - 1]?

/-- The index of the current entry, -1 while there is none. -/
def currentIndex (h : History α) : Int := (h.position : Int) - 1

/-- All entries in order, each with whether it is the current one. -/
def marked (h : History α) : List (α × Bool) :=
  h.entries.zipIdx.map fun (a, i) => (a, i + 1 == h.position)

structure Info where
  totalStates : Nat
  currentIndex : Int
  canUndo : Bool
  canRedo : Bool
  deriving DecidableEq

def info (h : History α) : Info := ⟨h.entries.length, h.currentIndex, h.canUndo, h.canRedo⟩

def Info.toJson (i : Info) : Json Quantity :=
  .object [("total_states", .count i.totalStates), ("current_index", .count i.currentIndex),
    ("can_undo", .bool i.canUndo), ("can_redo", .bool i.canRedo)]

theorem moveTo?_entries {h h' : History α} {position : Nat} {a : α}
    (hm : h.moveTo? position = some (a, h')) :
    h'.entries = h.entries ∧ h'.position = position ∧ h.entries[position - 1]? = some a := by
  simp only [moveTo?, Option.map_eq_some_iff, Prod.mk.injEq] at hm
  obtain ⟨b, hb, rfl, rfl⟩ := hm
  exact ⟨rfl, rfl, hb⟩

theorem current?_push (h : History α) (a : α) : (h.push a).current? = some a := by
  simp [push, current?]

end History

end DeskCalculator
