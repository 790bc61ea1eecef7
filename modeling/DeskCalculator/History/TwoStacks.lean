import DeskCalculator.History

namespace DeskCalculator

/-- A history as its past, with the current entry on top, and its future. -/
structure TwoStacks (α : Type) where
  past : List α
  future : List α
  deriving DecidableEq

namespace TwoStacks

variable {α : Type}

def empty : TwoStacks α := ⟨[], []⟩

def push (s : TwoStacks α) (a : α) : TwoStacks α := ⟨a :: s.past, []⟩

/-- The last entry of the past stays where it is. -/
def undo? (s : TwoStacks α) : Option (α × TwoStacks α) :=
  match s.past with
  | a :: b :: past => some (b, ⟨b :: past, a :: s.future⟩)
  | _ => none

def redo? (s : TwoStacks α) : Option (α × TwoStacks α) :=
  match s.future with
  | a :: future => some (a, ⟨a :: s.past, future⟩)
  | [] => none

def current? (s : TwoStacks α) : Option α := s.past.head?

/-- The past from its beginning, its top marked, and then the future. -/
def marked (s : TwoStacks α) : List (α × Bool) :=
  match s.past with
  | [] => s.future.map (·, false)
  | a :: past => past.reverse.map (·, false) ++ (a, true) :: s.future.map (·, false)

def toHistory (s : TwoStacks α) : History α := ⟨s.past.reverse ++ s.future, s.past.length⟩

/-- A future follows on a past only. -/
def WellFormed (s : TwoStacks α) : Prop := s.past = [] → s.future = []

theorem toHistory_empty : (empty : TwoStacks α).toHistory = .empty := rfl

theorem toHistory_push (s : TwoStacks α) (a : α) :
    (s.push a).toHistory = s.toHistory.push a := by
  have h : (s.past.reverse ++ s.future).take s.past.length = s.past.reverse := by
    rw [← List.length_reverse, List.take_left']
    rfl
  simp [toHistory, push, History.push, h]

theorem toHistory_undo? (s : TwoStacks α) :
    s.toHistory.undo? = s.undo?.map fun r => (r.1, r.2.toHistory) := by
  obtain ⟨past, future⟩ := s
  match past with
  | [] => simp [undo?, History.undo?, History.canUndo, toHistory]
  | [a] => simp [undo?, History.undo?, History.canUndo, toHistory]
  | a :: b :: past => simp [undo?, History.undo?, History.canUndo, History.moveTo?, toHistory]

theorem toHistory_redo? (s : TwoStacks α) :
    s.toHistory.redo? = s.redo?.map fun r => (r.1, r.2.toHistory) := by
  obtain ⟨past, future⟩ := s
  cases future with
  | nil => simp [redo?, History.redo?, History.canRedo, toHistory]
  | cons a future => simp [redo?, History.redo?, History.canRedo, History.moveTo?, toHistory]

end TwoStacks

end DeskCalculator
