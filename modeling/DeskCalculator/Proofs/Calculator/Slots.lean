import DeskCalculator.Calculator.Workbench
import DeskCalculator.Proofs.Expression.Refusal
import DeskCalculator.Proofs.Omission

namespace DeskCalculator

namespace Workbench

def Step.isSave : Step → Bool
  | .save => true
  | _ => false

/-- What is saved of the calculator at the time that the clock shows. -/
def snapshot (clock : Clock) (w : Workbench) : Snapshot :=
  ⟨w.calculator.value, w.calculator.label, clock w.readings⟩

variable {clock : Clock} {w : Workbench} {s : Step} {f : Fault}

/-- A step that fails has done nothing before. Of the categories, only that of moves in a history
has no place on a workbench. -/
theorem fault_of_step (h : (step clock w s).1 = .error f) :
    (step clock w s).2 = w ∧
      (f.category = .parse ∨ f.category = .division ∨ f.category = .argument) := by
  cases s with
  | evaluate e =>
    rw [step_evaluate] at h ⊢
    cases he : Expression.evaluate e with
    | ok value => simp [he] at h
    | error e =>
      have hf : e = f := by simpa [he] using h
      obtain hp | hd := Expression.category_of_evaluate he
      · simp [← hf, hp]
      · simp [← hf, hd]
  | evaluatePostfix text ts =>
    rw [step_evaluatePostfix] at h ⊢
    cases he : evalPostfix ts with
    | ok value => simp [he] at h
    | error e =>
      have hf : e = f := by simpa [he] using h
      obtain hp | hd := category_of_evalPostfix he
      · simp [← hf, hp]
      · simp [← hf, hd]
  | restore slot =>
    rw [step_restore] at h ⊢
    cases hslot : w.slots[slot]? with
    | some saved => simp [hslot] at h
    | none =>
      have hf : .notSnapshot .null = f := by simpa [hslot] using h
      simp [← hf, Fault.category]
  | restoreValue v =>
    cases h
    exact ⟨rfl, .inr (.inr rfl)⟩
  | _ => cases h

/-- The slots after a step are those before it, and one more after a save. -/
theorem slots_step (clock : Clock) (w : Workbench) (s : Step) :
    (step clock w s).2.slots = w.slots ++ if s.isSave then [w.snapshot clock] else [] := by
  cases s with
  | save => rfl
  | evaluate e =>
    rw [step_evaluate]
    cases Expression.evaluate e <;> simp [showing, Step.isSave]
  | evaluatePostfix text ts =>
    rw [step_evaluatePostfix]
    cases evalPostfix ts <;> simp [showing, Step.isSave]
  | restore slot =>
    rw [step_restore]
    cases w.slots[slot]? <;> simp [showing, Step.isSave]
  | restoreDraft d =>
    have hd : (step clock w (.restoreDraft d)).2.slots = w.slots := rfl
    simp [hd, Step.isSave]
  | _ => exact (List.append_nil _).symm

theorem length_slots_finalState (clock : Clock) (w : Workbench) (steps : List Step) :
    (finalState (step clock) w steps).slots.length =
      w.slots.length + steps.countP Step.isSave := by
  induction steps generalizing w with
  | nil => rfl
  | cons s steps ih =>
    have hstep := congrArg List.length (slots_step clock w s)
    have hrest := ih (step clock w s).2
    change (finalState (step clock) (step clock w s).2 steps).slots.length = _
    cases hs : s.isSave <;> simp [hs] at hstep ⊢ <;> omega

theorem slots_prefix_finalState (clock : Clock) (w : Workbench) (steps : List Step) :
    w.slots <+: (finalState (step clock) w steps).slots := by
  induction steps generalizing w with
  | nil => exact List.prefix_rfl
  | cons s steps ih =>
    have hstep : w.slots <+: (step clock w s).2.slots := by
      rw [slots_step]
      exact List.prefix_append _ _
    exact hstep.trans (ih (step clock w s).2)

/-- A slot once filled is the same at any later time. -/
theorem getElem?_slots_finalState {slot : Nat} {saved : Snapshot}
    (h : w.slots[slot]? = some saved) (steps : List Step) :
    (finalState (step clock) w steps).slots[slot]? = some saved := by
  have hslot : slot < w.slots.length := (List.getElem?_eq_some_iff.1 h).1
  obtain ⟨later, hlater⟩ := slots_prefix_finalState clock w steps
  rw [← hlater, List.getElem?_append_left hslot]
  exact h

/-- A save fills the slot that has as many before it as there were saves. -/
theorem getElem?_slots_save (clock : Clock) (before : List Step) :
    let w := finalState (step clock) initial before
    (step clock w .save).2.slots[before.countP Step.isSave]? = some (w.snapshot clock) := by
  intro w
  have hlength : w.slots.length = before.countP Step.isSave := by
    rw [length_slots_finalState]
    exact Nat.zero_add _
  rw [slots_step, ← hlength]
  simp [Step.isSave]

/-- A slot gives back the calculator as it was saved there, whatever happened since. A step that
fails leaves the calculator, the slots and the clock as they were, and its fault lies with a text,
a division or an argument. So steps that failed may be left out of a run, all of them or some, and
the others are answered the same. -/
theorem restores_saved (clock : Clock) :
    (∀ before between : List Step,
      let saved := (finalState (step clock) initial before).calculator
      let w := finalState (step clock) initial (before ++ .save :: between)
      step clock w (.restore (before.countP Step.isSave)) = (.ok .done, w.showing saved)) ∧
    (∀ w s f, (step clock w s).1 = .error f → (step clock w s).2 = w ∧
      (f.category = .parse ∨ f.category = .division ∨ f.category = .argument)) ∧
    ∀ (steps : List Step) (gone : Nat → Bool),
      (∀ k out, gone k = true → (run clock steps)[k]? = some out → ∃ f, out.1 = .error f) →
      run clock (without gone steps) = without gone (run clock steps) := by
  refine ⟨?_, ?_, ?_⟩
  · intro before between saved w
    have hfilled := getElem?_slots_save clock before
    have hw : w = finalState (step clock)
        (step clock (finalState (step clock) initial before) .save).2 between :=
      finalState_append (step clock) initial before (.save :: between)
    have hkept : w.slots[before.countP Step.isSave]? =
        some ((finalState (step clock) initial before).snapshot clock) := by
      rw [hw]
      exact getElem?_slots_finalState hfilled between
    rw [step_restore, hkept]
    rfl
  · intro w s f h
    exact fault_of_step h
  · intro steps gone h
    apply trace_without
    intro k s hk hs
    have hout : (run clock steps)[k]? =
        some (step clock (finalState (step clock) initial (steps.take k)) s) := by
      rw [run, getElem?_trace, hs]
      rfl
    obtain ⟨f, hf⟩ := h k _ hk hout
    exact (fault_of_step hf).1

/-- The label is not changed by going through a slot, and of the two refused steps no trace is
left. -/
theorem restores_saved_refused :
    let clock := Clock.ticking 0 250000
    let steps : List Step := [.evaluate (.text " 2*3 "), .save, .evaluate (.text "1/0"), .clear,
      .restore 0, .restoreValue .null, .save]
    let refused : Nat → Bool := fun k => k == 2 || k == 5
    (run clock steps).map (·.2.calculator.label) =
        ["2*3", "2*3", "2*3", "clear", "2*3", "2*3", "2*3"] ∧
      run clock (without refused steps) = without refused (run clock steps) := by
  intro clock steps refused
  have hnone : ∀ k < 7, refused k = true → ∀ out ∈ (run clock steps)[k]?,
      out.1.toOption.isNone = true := by
    decide +kernel
  refine ⟨by decide +kernel, ?_⟩
  apply (restores_saved clock).2.2
  intro k out hk hout
  have hlt : k < 7 := (List.getElem?_eq_some_iff.1 hout).1
  have hfails := hnone k hlt hk out hout
  cases hf : out.1 with
  | error f => exact ⟨f, rfl⟩
  | ok a =>
    rw [hf] at hfails
    cases hfails

end Workbench

end DeskCalculator
