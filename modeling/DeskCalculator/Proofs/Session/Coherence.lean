import DeskCalculator.Proofs.Expression.Refusal
import DeskCalculator.Proofs.Session.Steps

namespace DeskCalculator.Session

structure Coherent (clock : Clock) (s : Session) : Prop where
  showing : ∃ e, s.history.current? = some e ∧ s.calculator = .ofSnapshot e
  first : s.history.entries.head? = some ⟨0, "initial", clock 0⟩

variable {clock : Clock} {s : Session}

theorem coherent_start (clock : Clock) : Coherent clock (start clock) :=
  ⟨⟨⟨0, "initial", clock 0⟩, rfl, rfl⟩, rfl⟩

namespace Coherent

/-- The current entry among the others. -/
theorem exists_entries (hc : Coherent clock s) :
    ∃ xs e ys, s.history.entries = xs ++ e :: ys ∧ s.history.position = xs.length + 1 ∧
      s.calculator = .ofSnapshot e := by
  obtain ⟨e, he, hs⟩ := hc.showing
  obtain ⟨xs, ys, hxs, hp⟩ := History.current?_eq_some_iff.1 he
  exact ⟨xs, e, ys, hxs, hp, hs⟩

theorem position_pos (hc : Coherent clock s) : 0 < s.history.position := by
  obtain ⟨xs, e, ys, -, hp, -⟩ := hc.exists_entries
  omega

theorem position_le (hc : Coherent clock s) : s.history.position ≤ s.history.entries.length := by
  obtain ⟨xs, e, ys, he, hp, -⟩ := hc.exists_entries
  rw [he, hp, List.length_append, List.length_cons]
  omega

theorem record (hc : Coherent clock s) (c : Calculator) : Coherent clock (s.record clock c) := by
  rw [record_eq]
  refine ⟨⟨⟨c.value, c.label, clock s.readings⟩, ?_, rfl⟩, ?_⟩
  · exact History.current?_push _ _
  · exact History.head?_push hc.position_pos hc.first _

theorem goTo (hc : Coherent clock s) {position : Nat} (hp : 0 < position)
    {r : Snapshot × History Snapshot} (hm : s.history.moveTo? position = some r) :
    Coherent clock (s.goTo r) := by
  refine ⟨⟨r.1, History.current?_of_moveTo? hp hm, rfl⟩, ?_⟩
  obtain ⟨he, -, -⟩ := History.moveTo?_entries hm
  show r.2.entries.head? = _
  rw [he]
  exact hc.first

theorem of_succeeds (hc : Coherent clock s) {r : Request} {a : Answer} {s' : Session}
    (h : Succeeds clock s r a s') : Coherent clock s' := by
  cases h with
  | evaluate => exact hc.record _
  | clear => exact hc.record _
  | undo hu =>
    obtain ⟨hp, hm⟩ := History.undo?_eq_some_iff.1 hu
    have hpos : 0 < s.history.position - 1 := by omega
    exact hc.goTo hpos hm
  | redo hr =>
    obtain ⟨-, hm⟩ := History.redo?_eq_some_iff.1 hr
    exact hc.goTo (Nat.succ_pos _) hm
  | state => exact hc
  | history => exact hc

theorem isSome_undo? (hc : Coherent clock s) (hu : s.history.canUndo = true) :
    s.history.undo?.isSome = true := History.isSome_undo? hc.position_le hu

end Coherent

theorem Reachable.coherent (h : Reachable clock s) : Coherent clock s := by
  apply h.invariant (coherent_start clock)
  intro s r a s' hc hr
  exact hc.of_succeeds hr

/-- A move that the flags allow never lacks an entry. -/
theorem Coherent.category_of_fails (hc : Coherent clock s) {r : Request} {f : Fault}
    (h : Fails s r f) :
    f.category = .parse ∨ f.category = .division ∨ f.category = .precondition := by
  cases h with
  | evaluate he =>
    obtain hp | hd := Expression.category_of_evaluate he
    · exact .inl hp
    · exact .inr (.inl hd)
  | undoLost hu hm =>
    have hsome := hc.isSome_undo? hu
    simp [hm] at hsome
  | redoLost hr hm =>
    have hsome := History.isSome_redo? hr
    simp [hm] at hsome
  | _ => exact .inr (.inr rfl)

/-- Wherever requests lead, failed ones included, the calculator shows the entry at the cursor,
which is the one entry that the history marks and that the state describes. The cursor stays
inside the history, whose first entry is still that of the start, and all that a request can fail
with is a fault of its expression or having nowhere to move. -/
theorem Reachable.calculator_tracks_history (h : Reachable clock s) :
    (s.history.entries ≠ [] ∧ 0 ≤ s.history.currentIndex ∧
        s.history.currentIndex < s.history.entries.length) ∧
      s.history.entries.head? = some ⟨0, "initial", clock 0⟩ ∧
      (∃ xs e ys, s.history.entries = xs ++ e :: ys ∧ s.history.currentIndex = xs.length ∧
        s.history.current? = some e ∧ s.calculator.value = e.value ∧
        s.calculator.label = e.label ∧
        step clock s .history =
          (.ok (.history (xs.map (·, false) ++ (e, true) :: ys.map (·, false)) s.history.info), s) ∧
        step clock s .state = (.ok (.state ⟨e.value, e.label⟩ s.history.info), s)) ∧
      (s.history.canUndo = true → s.history.undo?.isSome = true) ∧
      (s.history.canRedo = true → s.history.redo?.isSome = true) ∧
      ∀ r f, (step clock s r).1 = .error f →
        f.category = .parse ∨ f.category = .division ∨ f.category = .precondition := by
  have hc := h.coherent
  obtain ⟨xs, e, ys, he, hp, hs⟩ := hc.exists_entries
  have hi : s.history.currentIndex = xs.length := by
    rw [History.currentIndex, hp]
    omega
  refine ⟨⟨?_, ?_, ?_⟩, hc.first, ⟨xs, e, ys, he, hi, ?_, ?_, ?_, ?_, ?_⟩, hc.isSome_undo?,
    History.isSome_redo?, ?_⟩
  · rw [he]
    simp
  · omega
  · rw [hi, he, List.length_append, List.length_cons]
    omega
  · exact History.current?_eq_some_iff.2 ⟨xs, ys, he, hp⟩
  · rw [hs]
    rfl
  · rw [hs]
    rfl
  · rw [Succeeds.history.step_eq, History.marked_eq he hp]
  · rw [Succeeds.state.step_eq, hs]
    rfl
  · intro r f hf
    obtain ⟨f', ha, hr⟩ | ⟨a, s', -, hr⟩ := step_cases clock s r
    · rw [hr] at hf
      cases hf
      exact hc.category_of_fails ha
    · rw [hr] at hf
      cases hf

theorem calculator_tracks_history_undone :
    let clock := Clock.ticking 0 250000
    let s := finalState (step clock) (start clock)
      [.evaluate (.text "2*3"), .evaluate (.text "1/0"), .clear, .undo]
    s.calculator = ⟨6, "2*3"⟩ ∧ s.history.currentIndex = 1 ∧ s.history.entries.length = 3 ∧
      ∃ e, s.history.current? = some e ∧ s.calculator.value = e.value ∧
        s.calculator.label = e.label := by
  intro clock s
  have hs : Reachable clock s := ⟨_, rfl⟩
  obtain ⟨-, -, ⟨xs, e, ys, -, -, he, hv, hl, -⟩, -⟩ := hs.calculator_tracks_history
  exact ⟨by decide +kernel, by decide +kernel, by decide +kernel, e, he, hv, hl⟩

end DeskCalculator.Session
