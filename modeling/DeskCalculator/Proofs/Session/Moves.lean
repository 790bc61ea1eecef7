import DeskCalculator.Proofs.Session.Coherence

namespace DeskCalculator.Session

/-- The session with its cursor on the entry at an index, if there is one. -/
def seek (s : Session) (i : Nat) : Session := (s.history.moveTo? (i + 1)).elim s s.goTo

def undone (clock : Clock) (s : Session) (k : Nat) : Session :=
  finalState (step clock) s (List.replicate k .undo)

def redone (clock : Clock) (s : Session) (k : Nat) : Session :=
  finalState (step clock) s (List.replicate k .redo)

/-- The flags of an answer to a request that records an entry or moves. -/
def Answer.flags? : Answer → Option Flags
  | .evaluated _ _ _ flags => some flags
  | .showing _ flags => some flags
  | _ => none

variable {clock : Clock} {s : Session} {i k : Nat} {e : Snapshot}

theorem seek_eq (he : s.history.entries[i]? = some e) :
    s.seek i = ⟨.ofSnapshot e, ⟨s.history.entries, i + 1⟩, s.readings⟩ := by
  rw [seek, History.moveTo?, Nat.add_sub_cancel, he]
  rfl

theorem Coherent.seek_current (hc : Coherent clock s) :
    ∃ i, s.history.position = i + 1 ∧ i < s.history.entries.length ∧ s.seek i = s := by
  obtain ⟨xs, e, ys, he, hp, hs⟩ := hc.exists_entries
  refine ⟨xs.length, hp, by simp [he], ?_⟩
  have hi : s.history.entries[xs.length]? = some e := by simp [he]
  rw [seek_eq hi, ← hs, ← hp]

theorem step_undo_seek (he : s.history.entries[i]? = some e)
    (hi : i + 1 < s.history.entries.length) :
    step clock (s.seek (i + 1)) .undo =
      (.ok (.showing (.ofSnapshot e) (s.seek i).flags), s.seek i) := by
  have hnext : s.history.entries[i + 1]? = some s.history.entries[i + 1] :=
    List.getElem?_eq_getElem hi
  have hu : (s.seek (i + 1)).history.undo? = some (e, ⟨s.history.entries, i + 1⟩) := by
    rw [seek_eq hnext, History.undo?_eq_some_iff, History.moveTo?_eq_some_iff]
    exact ⟨by simp, he, rfl⟩
  have hgo : (s.seek (i + 1)).goTo (e, ⟨s.history.entries, i + 1⟩) = s.seek i := by
    rw [seek_eq hnext, seek_eq he]
    rfl
  rw [(Succeeds.undo hu).step_eq, hgo]

theorem step_redo_seek (he : s.history.entries[i + 1]? = some e) :
    step clock (s.seek i) .redo =
      (.ok (.showing (.ofSnapshot e) (s.seek (i + 1)).flags), s.seek (i + 1)) := by
  obtain ⟨hlt, -⟩ := List.getElem?_eq_some_iff.1 he
  have hi : i < s.history.entries.length := by omega
  have hhere : s.history.entries[i]? = some s.history.entries[i] := List.getElem?_eq_getElem hi
  have hr : (s.seek i).history.redo? = some (e, ⟨s.history.entries, i + 2⟩) := by
    rw [seek_eq hhere, History.redo?_eq_some_iff, History.moveTo?_eq_some_iff]
    exact ⟨hlt, he, rfl⟩
  have hgo : (s.seek i).goTo (e, ⟨s.history.entries, i + 2⟩) = s.seek (i + 1) := by
    rw [seek_eq hhere, seek_eq he]
    rfl
  rw [(Succeeds.redo hr).step_eq, hgo]

theorem step_undo_of_not_canUndo (h : s.history.canUndo = false) :
    step clock s .undo = (.error .nothingToUndo, s) := (Fails.undo h).step_eq

theorem step_redo_of_not_canRedo (h : s.history.canRedo = false) :
    step clock s .redo = (.error .nothingToRedo, s) := (Fails.redo h).step_eq

theorem step_undo_seek_zero (h : 0 < s.history.entries.length) :
    step clock (s.seek 0) .undo = (.error .nothingToUndo, s.seek 0) := by
  apply step_undo_of_not_canUndo
  rw [seek_eq (List.getElem?_eq_getElem h)]
  rfl

theorem step_redo_seek_last (h : i + 1 = s.history.entries.length) :
    step clock (s.seek i) .redo = (.error .nothingToRedo, s.seek i) := by
  have hi : i < s.history.entries.length := by omega
  apply step_redo_of_not_canRedo
  rw [seek_eq (List.getElem?_eq_getElem hi), History.canRedo]
  simp [h]

theorem undone_seek (clock : Clock) (hk : k ≤ i) (hi : i < s.history.entries.length) :
    undone clock (s.seek i) k = s.seek (i - k) := by
  induction k generalizing i with
  | zero => rfl
  | succ k ih =>
    obtain ⟨j, rfl⟩ : ∃ j, i = j + 1 := ⟨i - 1, by omega⟩
    have hj : j < s.history.entries.length := by omega
    have hstep : (step clock (s.seek (j + 1)) .undo).2 = s.seek j := by
      rw [step_undo_seek (List.getElem?_eq_getElem hj) hi]
    change undone clock (step clock (s.seek (j + 1)) .undo).2 k = _
    rw [hstep, ih (by omega) hj, Nat.add_sub_add_right]

theorem redone_seek (clock : Clock) (hi : i + k < s.history.entries.length) :
    redone clock (s.seek i) k = s.seek (i + k) := by
  induction k generalizing i with
  | zero => rfl
  | succ k ih =>
    have hnext : i + 1 < s.history.entries.length := by omega
    have hstep : (step clock (s.seek i) .redo).2 = s.seek (i + 1) := by
      rw [step_redo_seek (List.getElem?_eq_getElem hnext)]
    change redone clock (step clock (s.seek i) .redo).2 k = _
    rw [hstep, ih (by omega), Nat.add_assoc, Nat.add_comm 1 k]

theorem redone_undone_seek (clock : Clock) (hk : k ≤ i) (hi : i < s.history.entries.length) :
    redone clock (undone clock (s.seek i) k) k = s.seek i := by
  rw [undone_seek clock hk hi, redone_seek clock (by omega), Nat.sub_add_cancel hk]

theorem undone_redone_seek (clock : Clock) (hi : i + k < s.history.entries.length) :
    undone clock (redone clock (s.seek i) k) k = s.seek i := by
  rw [redone_seek clock hi, undone_seek clock (Nat.le_add_left k i) hi, Nat.add_sub_cancel]

theorem Coherent.canUndo_iff (hc : Coherent clock s) :
    s.flags.canUndo = true ↔ ∃ a, (step clock s .undo).1 = .ok a := by
  constructor
  · intro hu
    obtain ⟨⟨e, h⟩, hm⟩ := Option.isSome_iff_exists.1 (hc.isSome_undo? hu)
    rw [(Succeeds.undo hm).step_eq]
    exact ⟨_, rfl⟩
  · intro h
    obtain ⟨a, ha⟩ := h
    by_contra hu
    rw [step_undo_of_not_canUndo (Bool.eq_false_iff.2 hu)] at ha
    cases ha

theorem canRedo_iff : s.flags.canRedo = true ↔ ∃ a, (step clock s .redo).1 = .ok a := by
  constructor
  · intro hr
    obtain ⟨⟨e, h⟩, hm⟩ := Option.isSome_iff_exists.1 (History.isSome_redo? hr)
    rw [(Succeeds.redo hm).step_eq]
    exact ⟨_, rfl⟩
  · intro h
    obtain ⟨a, ha⟩ := h
    by_contra hr
    rw [step_redo_of_not_canRedo (Bool.eq_false_iff.2 hr)] at ha
    cases ha

/-- Flags are read off the session that the request leads to. -/
theorem Succeeds.flags?_eq {s' : Session} {r : Request} {a : Answer} (h : Succeeds clock s r a s')
    (hstate : r ≠ .state) (hhistory : r ≠ .history) : a.flags? = some s'.flags := by
  cases h with
  | evaluate => rfl
  | clear => rfl
  | undo => rfl
  | redo => rfl
  | state => exact absurd rfl hstate
  | history => exact absurd rfl hhistory

theorem Coherent.exists_flags (hc : Coherent clock s) {r : Request} {a : Answer}
    (hstate : r ≠ .state) (hhistory : r ≠ .history) (ha : (step clock s r).1 = .ok a) :
    ∃ flags, a.flags? = some flags ∧
      (flags.canUndo = true ↔ ∃ b, (step clock (step clock s r).2 .undo).1 = .ok b) ∧
      (flags.canRedo = true ↔ ∃ b, (step clock (step clock s r).2 .redo).1 = .ok b) := by
  obtain ⟨f, -, he⟩ | ⟨b, s', hr, he⟩ := step_cases clock s r
  · rw [he] at ha
    cases ha
  · rw [he] at ha ⊢
    cases ha
    exact ⟨s'.flags, hr.flags?_eq hstate hhistory, (hc.of_succeeds hr).canUndo_iff, canRedo_iff⟩

/-- Wherever requests lead, each undo goes back by one entry until there is none before the
current one, and each redo goes on by one until there is none behind it. As many moves the other
way lead back to the very same session, and the flags of an answer tell which move comes next. -/
theorem Reachable.moves_exact (h : Reachable clock s) :
    ∃ i : Nat, s.history.currentIndex = i ∧ i < s.history.entries.length ∧
      (∀ j < i, ∃ e flags, s.history.entries[i - (j + 1)]? = some e ∧
        (step clock (undone clock s j) .undo).1 = .ok (.showing ⟨e.value, e.label⟩ flags)) ∧
      (∃ f, (step clock (undone clock s i) .undo).1 = .error f ∧ f.category = .precondition ∧
        f.message = "nothing to undo") ∧
      (∀ j < s.history.entries.length - 1 - i, ∃ e flags,
        s.history.entries[i + (j + 1)]? = some e ∧
        (step clock (redone clock s j) .redo).1 = .ok (.showing ⟨e.value, e.label⟩ flags)) ∧
      (∃ f, (step clock (redone clock s (s.history.entries.length - 1 - i)) .redo).1 = .error f ∧
        f.category = .precondition ∧ f.message = "nothing to redo") ∧
      (∀ k ≤ i, redone clock (undone clock s k) k = s) ∧
      (∀ k ≤ s.history.entries.length - 1 - i, undone clock (redone clock s k) k = s) ∧
      ∀ r a, r ≠ .state → r ≠ .history → (step clock s r).1 = .ok a →
        ∃ flags, a.flags? = some flags ∧
          (flags.canUndo = true ↔ ∃ b, (step clock (step clock s r).2 .undo).1 = .ok b) ∧
          (flags.canRedo = true ↔ ∃ b, (step clock (step clock s r).2 .redo).1 = .ok b) := by
  have hc := h.coherent
  obtain ⟨i, hp, hi, hs⟩ := hc.seek_current
  have hindex : s.history.currentIndex = i := by
    rw [History.currentIndex, hp]
    omega
  have hundone : ∀ k ≤ i, undone clock s k = s.seek (i - k) := by
    intro k hk
    have hback := undone_seek clock hk hi
    rwa [hs] at hback
  have hredone : ∀ k, i + k < s.history.entries.length → redone clock s k = s.seek (i + k) := by
    intro k hk
    have hon := redone_seek clock hk
    rwa [hs] at hon
  refine ⟨i, hindex, hi, ?_, ?_, ?_, ?_, ?_, ?_, ?_⟩
  · intro j hj
    have hlt : i - (j + 1) < s.history.entries.length := by omega
    have hij : i - j = i - (j + 1) + 1 := by omega
    rw [hundone j (by omega), hij, step_undo_seek (List.getElem?_eq_getElem hlt) (by omega)]
    exact ⟨_, _, List.getElem?_eq_getElem hlt, rfl⟩
  · rw [hundone i (Nat.le_refl i), Nat.sub_self, step_undo_seek_zero (by omega)]
    exact ⟨_, rfl, rfl, rfl⟩
  · intro j hj
    have hlt : i + j + 1 < s.history.entries.length := by omega
    rw [hredone j (by omega), step_redo_seek (List.getElem?_eq_getElem hlt)]
    exact ⟨_, _, List.getElem?_eq_getElem hlt, rfl⟩
  · rw [hredone _ (by omega), step_redo_seek_last (by omega)]
    exact ⟨_, rfl, rfl, rfl⟩
  · intro k hk
    have hback := redone_undone_seek clock hk hi
    rwa [hs] at hback
  · intro k hk
    have hik : i + k < s.history.entries.length := by omega
    have hon := undone_redone_seek clock hik
    rwa [hs] at hon
  · intro r a hstate hhistory ha
    exact hc.exists_flags hstate hhistory ha

theorem moves_exact_halfway :
    let clock := Clock.ticking 0 250000
    let s := finalState (step clock) (start clock)
      [.evaluate (.text "1+1"), .evaluate (.text "2*3"), .clear, .undo, .undo]
    s.history.entries.length = 4 ∧ s.history.currentIndex = 1 ∧
      redone clock (undone clock s 1) 1 = s ∧ undone clock (redone clock s 2) 2 = s := by
  intro clock s
  have hs : Reachable clock s := ⟨_, rfl⟩
  have hn : s.history.entries.length = 4 := by decide +kernel
  have hc : s.history.currentIndex = 1 := by decide +kernel
  obtain ⟨i, hi, -, -, -, -, -, hundo, hredo, -⟩ := hs.moves_exact
  exact ⟨hn, hc, hundo 1 (by omega), hredo 2 (by omega)⟩

end DeskCalculator.Session
