import DeskCalculator.History
import DeskCalculator.Snapshot
import DeskCalculator.Trace

namespace DeskCalculator

/-- A history of snapshots on its own. -/
structure Journal where
  history : History Snapshot
  /-- How often the clock has been read. -/
  readings : Nat
  deriving DecidableEq

namespace Journal

def initial : Journal := ⟨.empty, 0⟩

inductive Step where
  | push (d : Snapshot.Draft)
  | undo
  | redo
  | clear
  | current
  | entries
  | size
  | currentIndex
  deriving DecidableEq

inductive Answer where
  | done
  | entry (s : Option Snapshot)
  | entries (marked : List (Snapshot × Bool))
  | count (n : Int)
  deriving DecidableEq

def at? (j : Journal) (h : Option (Snapshot × History Snapshot)) : Answer × Journal :=
  match h with
  | some (s, history) => (.entry s, { j with history })
  | none => (.entry none, j)

def step (clock : Clock) (j : Journal) : Step → Answer × Journal
  | .push d =>
    let (s, readings) := d.make clock j.readings
    (.done, ⟨j.history.push s, readings⟩)
  | .undo => j.at? j.history.undo?
  | .redo => j.at? j.history.redo?
  | .clear => (.done, { j with history := .empty })
  | .current => (.entry j.history.current?, j)
  | .entries => (.entries j.history.marked, j)
  | .size => (.count j.history.entries.length, j)
  | .currentIndex => (.count j.history.currentIndex, j)

def run (clock : Clock) (steps : List Step) : List (Answer × Journal) :=
  trace (step clock) initial steps

/-- The entries as an array, each with the mark of the current one. -/
def markedJson (marked : List (Snapshot × Bool)) : Json Quantity :=
  .array (marked.map fun (s, isCurrent) => .object (s.fields ++ [("is_current", .bool isCurrent)]))

def Answer.toJson : Answer → Json Quantity
  | .done => .null
  | .entry none => .null
  | .entry (some s) => s.toJson
  | .entries marked => markedJson marked
  | .count n => .count n

end Journal

end DeskCalculator
