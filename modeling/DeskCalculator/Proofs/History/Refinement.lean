import DeskCalculator.History.Journal
import DeskCalculator.History.TwoStacks
import DeskCalculator.Proofs.History.Cursor
import Mathlib.Data.List.Forall2

namespace DeskCalculator

namespace TwoStacks

variable {α : Type}

def info (s : TwoStacks α) : History.Info :=
  ⟨s.past.length + s.future.length, (s.past.length : Int) - 1, decide (2 ≤ s.past.length),
    !s.future.isEmpty⟩

theorem toHistory_current? (s : TwoStacks α) : s.toHistory.current? = s.current? := by
  obtain ⟨past, future⟩ := s
  cases past with
  | nil => rfl
  | cons a past =>
    have he : (toHistory ⟨a :: past, future⟩).entries = past.reverse ++ a :: future := by
      simp [toHistory]
    exact History.current?_eq_some_iff.2 ⟨past.reverse, future, he, by simp [toHistory]⟩

theorem toHistory_marked (s : TwoStacks α) : s.toHistory.marked = s.marked := by
  obtain ⟨past, future⟩ := s
  cases past with
  | nil => exact History.marked_of_ne future 0 0 (fun i _ _ => Nat.succ_ne_zero i)
  | cons a past =>
    have he : (toHistory ⟨a :: past, future⟩).entries = past.reverse ++ a :: future := by
      simp [toHistory]
    exact History.marked_eq he (by simp [toHistory])

theorem toHistory_canUndo (s : TwoStacks α) :
    s.toHistory.canUndo = decide (2 ≤ s.past.length) := rfl

theorem toHistory_canRedo (s : TwoStacks α) : s.toHistory.canRedo = !s.future.isEmpty := by
  obtain ⟨past, future⟩ := s
  cases future <;> simp [toHistory, History.canRedo]

theorem toHistory_info (s : TwoStacks α) : s.toHistory.info = s.info := by
  rw [History.info, toHistory_canUndo, toHistory_canRedo]
  simp [info, toHistory, History.currentIndex]

/-- Only the top of the past is marked. -/
theorem filter_marked (s : TwoStacks α) :
    (s.marked.filter (·.2)).map (·.1) = s.current?.toList := by
  have hunmarked (as : List α) : (as.map (·, false)).filter (·.2) = [] := by simp
  obtain ⟨past, future⟩ := s
  cases past with
  | nil =>
    change ((future.map (·, false)).filter (·.2)).map (·.1) = []
    rw [hunmarked]
    rfl
  | cons a past =>
    change ((past.reverse.map (·, false) ++ (a, true) :: future.map (·, false)).filter (·.2)).map
      (·.1) = [a]
    rw [List.filter_append, hunmarked, List.filter_cons_of_pos rfl, hunmarked]
    rfl

theorem wellFormed_empty : (empty : TwoStacks α).WellFormed := fun _ => rfl

theorem wellFormed_push (s : TwoStacks α) (a : α) : (s.push a).WellFormed := fun _ => rfl

theorem wellFormed_undo? {s s' : TwoStacks α} {a : α} (h : s.undo? = some (a, s')) :
    s'.WellFormed := by
  obtain ⟨past, future⟩ := s
  match past with
  | [] => cases h
  | [_] => cases h
  | _ :: _ :: _ =>
    cases h
    intro hpast
    cases hpast

theorem wellFormed_redo? {s s' : TwoStacks α} {a : α} (h : s.redo? = some (a, s')) :
    s'.WellFormed := by
  obtain ⟨past, future⟩ := s
  cases future with
  | nil => cases h
  | cons b future =>
    cases h
    intro hpast
    cases hpast

/-- A list whose cursor stands on no entry shows stacks that are both empty. -/
theorem WellFormed.toHistory_entries {s : TwoStacks α} (h : s.WellFormed) :
    s.toHistory.currentIndex = -1 ↔ s.toHistory.entries = [] := by
  obtain ⟨past, future⟩ := s
  cases past with
  | nil =>
    obtain rfl : future = [] := h rfl
    simp [toHistory, History.currentIndex]
  | cons a past => simp [toHistory, History.currentIndex]

/-- The past is the front part of the list, so the cursor never lies behind it. -/
theorem toHistory_position_le (s : TwoStacks α) :
    s.toHistory.position ≤ s.toHistory.entries.length := by
  change s.past.length ≤ (s.past.reverse ++ s.future).length
  rw [List.length_append, List.length_reverse]
  omega

end TwoStacks

/-- A journal whose snapshots are kept on two stacks. -/
structure StackJournal where
  twoStacks : TwoStacks Snapshot
  readings : Nat

namespace StackJournal

def initial : StackJournal := ⟨.empty, 0⟩

/-- A move that the stacks refuse answers with nothing and changes nothing. -/
def at? (j : StackJournal) : Option (Snapshot × TwoStacks Snapshot) → Journal.Answer × StackJournal
  | some (s, twoStacks) => (.entry s, { j with twoStacks })
  | none => (.entry none, j)

def step (clock : Clock) (j : StackJournal) : Journal.Step → Journal.Answer × StackJournal
  | .push d =>
    let (s, readings) := d.make clock j.readings
    (.done, ⟨j.twoStacks.push s, readings⟩)
  | .undo => j.at? j.twoStacks.undo?
  | .redo => j.at? j.twoStacks.redo?
  | .clear => (.done, { j with twoStacks := .empty })
  | .current => (.entry j.twoStacks.current?, j)
  | .entries => (.entries j.twoStacks.marked, j)
  | .size => (.count j.twoStacks.info.totalStates, j)
  | .currentIndex => (.count j.twoStacks.info.currentIndex, j)

def run (clock : Clock) (steps : List Journal.Step) : List (Journal.Answer × StackJournal) :=
  trace (step clock) initial steps

end StackJournal

namespace Journal

/-- The journal is the one that the stacks show. -/
structure Shows (j : Journal) (k : StackJournal) : Prop where
  history : j.history = k.twoStacks.toHistory
  wellFormed : k.twoStacks.WellFormed
  readings : j.readings = k.readings

variable {clock : Clock} {j : Journal} {k : StackJournal}

theorem shows_initial : Shows initial .initial :=
  ⟨TwoStacks.toHistory_empty.symm, TwoStacks.wellFormed_empty, rfl⟩

namespace Shows

theorem push (h : Shows j k) (d : Snapshot.Draft) :
    Shows (step clock j (.push d)).2 (k.step clock (.push d)).2 := by
  have hr := h.readings
  refine ⟨?_, TwoStacks.wellFormed_push _ _, ?_⟩
  · change j.history.push (d.make clock j.readings).1 =
      (k.twoStacks.push (d.make clock k.readings).1).toHistory
    rw [TwoStacks.toHistory_push, h.history, hr]
  · change (d.make clock j.readings).2 = (d.make clock k.readings).2
    rw [hr]

/-- The list and the stacks make the same move or both refuse it. -/
theorem at? (h : Shows j k) {m : Option (Snapshot × TwoStacks Snapshot)}
    (hm : ∀ a s, m = some (a, s) → s.WellFormed) :
    (j.at? (m.map fun r => (r.1, r.2.toHistory))).1 = (k.at? m).1 ∧
      Shows (j.at? (m.map fun r => (r.1, r.2.toHistory))).2 (k.at? m).2 := by
  cases m with
  | none => exact ⟨rfl, h⟩
  | some r => exact ⟨rfl, ⟨rfl, hm r.1 r.2 rfl, h.readings⟩⟩

theorem step (clock : Clock) (h : Shows j k) (s : Step) :
    (step clock j s).1 = (k.step clock s).1 ∧ Shows (step clock j s).2 (k.step clock s).2 := by
  have hinfo : j.history.info = k.twoStacks.info := by
    rw [h.history, TwoStacks.toHistory_info]
  cases s with
  | push d => exact ⟨rfl, h.push d⟩
  | undo =>
    have hm := h.at? (m := k.twoStacks.undo?) fun _ _ => TwoStacks.wellFormed_undo?
    rw [← TwoStacks.toHistory_undo?, ← h.history] at hm
    exact hm
  | redo =>
    have hm := h.at? (m := k.twoStacks.redo?) fun _ _ => TwoStacks.wellFormed_redo?
    rw [← TwoStacks.toHistory_redo?, ← h.history] at hm
    exact hm
  | clear => exact ⟨rfl, ⟨rfl, TwoStacks.wellFormed_empty, h.readings⟩⟩
  | current =>
    refine ⟨?_, h⟩
    change Answer.entry j.history.current? = .entry k.twoStacks.current?
    rw [h.history, TwoStacks.toHistory_current?]
  | entries =>
    refine ⟨?_, h⟩
    change Answer.entries j.history.marked = .entries k.twoStacks.marked
    rw [h.history, TwoStacks.toHistory_marked]
  | size =>
    refine ⟨?_, h⟩
    change Answer.count j.history.info.totalStates = .count k.twoStacks.info.totalStates
    rw [hinfo]
  | currentIndex =>
    refine ⟨?_, h⟩
    change Answer.count j.history.info.currentIndex = .count k.twoStacks.info.currentIndex
    rw [hinfo]

theorem along (clock : Clock) (h : Shows j k) (steps : List Step) :
    List.Forall₂ (fun a b => a.1 = b.1 ∧ Shows a.2 b.2)
      (trace (Journal.step clock) j steps) (trace (StackJournal.step clock) k steps) := by
  induction steps generalizing j k with
  | nil => exact .nil
  | cons s steps ih =>
    have hs := h.step clock s
    exact .cons hs (ih hs.2)

end Shows

/-- What a journal has in common with one on stacks. Its cursor stands inside the list, or before
it while the list is empty; a move that is allowed finds its entry; and of all entries only the
current one is marked. -/
structure Agrees (j : Journal) (k : StackJournal) : Prop where
  entries : j.history.entries = k.twoStacks.past.reverse ++ k.twoStacks.future
  currentIndex : j.history.currentIndex = (k.twoStacks.past.length : Int) - 1
  readings : j.readings = k.readings
  info : j.history.info = k.twoStacks.info
  marked : (j.history.marked.filter (·.2)).map (·.1) = k.twoStacks.current?.toList
  inside : -1 ≤ j.history.currentIndex ∧ j.history.currentIndex < j.history.entries.length
  before : j.history.currentIndex = -1 ↔ j.history.entries = []
  undo : j.history.canUndo = true → j.history.undo?.isSome = true
  redo : j.history.canRedo = true → j.history.redo?.isSome = true

theorem Shows.agrees (h : Shows j k) : Agrees j k := by
  obtain ⟨history, readings⟩ := j
  obtain ⟨rfl, hw, hr⟩ := h
  have hle := k.twoStacks.toHistory_position_le
  have hbefore := hw.toHistory_entries
  have hinside : -1 ≤ k.twoStacks.toHistory.currentIndex ∧
      k.twoStacks.toHistory.currentIndex < k.twoStacks.toHistory.entries.length := by
    rw [History.currentIndex]
    omega
  have hmarked : (k.twoStacks.toHistory.marked.filter (·.2)).map (·.1) =
      k.twoStacks.current?.toList := by
    rw [TwoStacks.toHistory_marked, TwoStacks.filter_marked]
  exact ⟨rfl, rfl, hr, k.twoStacks.toHistory_info, hmarked, hinside, hbefore,
    History.isSome_undo? hle, History.isSome_redo?⟩

/-- A new journal and a new one on two stacks answer every step alike, and after each step the
list is the past from its beginning and then the future, with the cursor on the top of the past. -/
theorem run_refines_stacks (clock : Clock) (steps : List Step) :
    Agrees initial .initial ∧
      List.Forall₂ (fun a b => a.1 = b.1 ∧ Agrees a.2 b.2)
        (run clock steps) (StackJournal.run clock steps) := by
  refine ⟨shows_initial.agrees, ?_⟩
  have hrun := shows_initial.along clock steps
  exact hrun.imp fun _ _ h => ⟨h.1, h.2.agrees⟩

end Journal

end DeskCalculator
