import DeskCalculator.Proofs.Expression.Refusal
import DeskCalculator.Proofs.Session.Coherence

namespace DeskCalculator

namespace Expression

/-- No expression brings about the labels of the start and of clearing. -/
theorem evaluate_initial :
    evaluate (.text "initial") = .error (.unsupportedSymbol 'i') := by decide +kernel

theorem evaluate_clear :
    evaluate (.text "clear") = .error (.unsupportedSymbol 'c') := by decide +kernel

end Expression

namespace Session

/-- The label alone tells how the value comes about: by clearing, or else as the value of the
label as an expression. -/
def Replays (c : Calculator) : Prop :=
  if c.label = "clear" then c.value = 0
  else Text.allBlank c.label = false ∧ Text.trim c.label = c.label ∧
    Expression.evaluate (.text c.label) = .ok c.value

theorem replays_cleared : Replays .cleared := rfl

theorem replays_of_compileText {text : String} {rpn : List Token} {value : Float}
    (hr : Expression.compileText text = .ok rpn) (hv : evalPostfix rpn = .ok value) :
    Replays ⟨value, Text.trim text⟩ := by
  have he : Expression.evaluate (.text (Text.trim text)) = .ok value :=
    calc Expression.evaluate (.text (Text.trim text))
        = Expression.evaluate (.text text) := Expression.evaluate_trim text
      _ = evalPostfix rpn := Expression.evaluate_of_compileText hr
      _ = .ok value := hv
  have hne : Text.trim text ≠ "clear" := by
    intro hl
    rw [hl, Expression.evaluate_clear] at he
    cases he
  rw [Replays, if_neg hne]
  refine ⟨?_, Text.trim_trim text, he⟩
  exact (Text.allBlank_trim text).trans (Expression.not_allBlank_of_compileText hr)

theorem Replays.label_ne_initial {c : Calculator} (h : Replays c) : c.label ≠ "initial" := by
  intro hl
  have hne : c.label ≠ "clear" := by
    rw [hl]
    decide
  rw [Replays, if_neg hne] at h
  obtain ⟨-, -, he⟩ := h
  rw [hl, Expression.evaluate_initial] at he
  cases he

structure Replayable (clock : Clock) (s : Session) : Prop where
  coherent : Coherent clock s
  replays : ∀ e ∈ s.history.entries.tail, Replays (.ofSnapshot e)

variable {clock : Clock} {s : Session}

theorem replayable_start (clock : Clock) : Replayable clock (start clock) :=
  ⟨coherent_start clock, by simp [start_eq]⟩

namespace Replayable

theorem record (hs : Replayable clock s) {c : Calculator} (hc : Replays c) :
    Replayable clock (s.record clock c) := by
  refine ⟨hs.coherent.record c, ?_⟩
  intro e he
  rw [record_eq] at he
  obtain he | rfl := History.mem_tail_push hs.coherent.position_pos he
  · exact hs.replays e he
  · exact hc

theorem of_moveTo? (hs : Replayable clock s) {position : Nat} {r : Snapshot × History Snapshot}
    (hm : s.history.moveTo? position = some r) (hc : Coherent clock (s.goTo r)) :
    Replayable clock (s.goTo r) := by
  refine ⟨hc, ?_⟩
  obtain ⟨he, -, -⟩ := History.moveTo?_entries hm
  change ∀ e ∈ r.2.entries.tail, _
  rw [he]
  exact hs.replays

theorem of_succeeds (hs : Replayable clock s) {r : Request} {a : Answer} {s' : Session}
    (h : Succeeds clock s r a s') : Replayable clock s' := by
  have hc : Coherent clock s' := hs.coherent.of_succeeds h
  cases h with
  | evaluate hr hv => exact hs.record (replays_of_compileText hr hv)
  | clear => exact hs.record replays_cleared
  | undo hu => exact hs.of_moveTo? (History.undo?_eq_some_iff.1 hu).2 hc
  | redo hr => exact hs.of_moveTo? (History.redo?_eq_some_iff.1 hr).2 hc
  | state => exact hs
  | history => exact hs

theorem entry (hs : Replayable clock s) {i : Nat} {e : Snapshot}
    (he : s.history.entries[i]? = some e) :
    (i = 0 ↔ e.label = "initial") ∧ (i = 0 → e.value = 0) ∧
      (0 < i → Replays (.ofSnapshot e)) := by
  have hfirst := hs.coherent.first
  cases hentries : s.history.entries with
  | nil => simp [hentries] at he
  | cons x xs =>
    rw [hentries] at he hfirst
    cases i with
    | zero =>
      have hx : x = e := by simpa using he
      have hstart : x = ⟨0, "initial", clock 0⟩ := by simpa using hfirst
      rw [← hx, hstart]
      simp
    | succ i =>
      have hmem : e ∈ s.history.entries.tail := by
        rw [hentries]
        exact List.mem_of_getElem? he
      have hr : Replays (.ofSnapshot e) := hs.replays e hmem
      have hl : e.label ≠ "initial" := hr.label_ne_initial
      simp [hl, hr]

end Replayable

theorem Reachable.replayable (h : Reachable clock s) : Replayable clock s := by
  apply h.invariant (replayable_start clock)
  intro s r a s' hs hr
  exact hs.of_succeeds hr

/-- Wherever requests lead, failed ones included, each entry behind the first one can be replayed
from its label, and so can the calculator, whatever entry the cursor stands on. -/
theorem Reachable.entries_replay (h : Reachable clock s) :
    (∀ i e, s.history.entries[i]? = some e →
        (i = 0 ↔ e.label = "initial") ∧ (i = 0 → e.value = 0) ∧
          (0 < i → Replays (.ofSnapshot e))) ∧
      (s.history.currentIndex = 0 ↔ s.calculator.label = "initial") ∧
      (s.history.currentIndex = 0 → s.calculator.value = 0) ∧
      (0 < s.history.currentIndex → Replays s.calculator) := by
  have hs := h.replayable
  refine ⟨fun i e he => hs.entry he, ?_⟩
  obtain ⟨xs, e, ys, hentries, hp, hc⟩ := hs.coherent.exists_entries
  have hi : s.history.currentIndex = xs.length := by
    rw [History.currentIndex, hp]
    omega
  have he : s.history.entries[xs.length]? = some e := by simp [hentries]
  obtain ⟨hlabel, hvalue, hreplays⟩ := hs.entry he
  rw [hi, hc]
  refine ⟨?_, ?_, ?_⟩
  · rw [Int.natCast_eq_zero]
    exact hlabel
  · intro h0
    exact hvalue (by omega)
  · intro h0
    exact hreplays (by omega)

theorem entries_replay_trimmed :
    let clock := Clock.ticking 0 250000
    let s := finalState (step clock) (start clock)
      [.evaluate (.text " 2 * 3\t"), .evaluate (.text "2*"), .clear, .undo]
    s.history.entries.map (·.label) = ["initial", "2 * 3", "clear"] ∧
      s.calculator = ⟨6, "2 * 3"⟩ ∧ s.history.currentIndex = 1 ∧ Replays s.calculator := by
  intro clock s
  have hs : Reachable clock s := ⟨_, rfl⟩
  have hi : s.history.currentIndex = 1 := by decide +kernel
  obtain ⟨-, -, -, hreplays⟩ := hs.entries_replay
  exact ⟨by decide +kernel, by decide +kernel, hi, hreplays (by omega)⟩

end Session

end DeskCalculator
