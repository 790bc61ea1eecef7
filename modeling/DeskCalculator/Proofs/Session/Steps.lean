import DeskCalculator.Session
import DeskCalculator.Proofs.History.Cursor
import DeskCalculator.Proofs.Outcome

namespace DeskCalculator

/-- Only texts have a value, and they have it through their postfix tokens. -/
theorem Expression.exists_of_evaluate {e : Json.Document} {value : Float}
    (h : evaluate e = .ok value) :
    ∃ text rpn, e = .text text ∧ compileText text = .ok rpn ∧ evalPostfix rpn = .ok value := by
  cases e with
  | text text =>
    obtain ⟨rpn, hr, hv⟩ := bind_eq_ok_iff.1 h
    exact ⟨text, rpn, rfl, hr, hv⟩
  | _ => cases h

namespace Session

/-- What a request that succeeds does and answers, one case a kind of request. -/
inductive Succeeds (clock : Clock) (s : Session) : Request → Answer → Session → Prop where
  | evaluate {text : String} {rpn : List Token} {value : Float} :
    Expression.compileText text = .ok rpn → evalPostfix rpn = .ok value →
    Succeeds clock s (.evaluate (.text text))
      (.evaluated value (Text.trim text) (rpn.map Token.text)
        (s.record clock ⟨value, Text.trim text⟩).flags)
      (s.record clock ⟨value, Text.trim text⟩)
  | clear :
    Succeeds clock s .clear (.showing .cleared (s.record clock .cleared).flags)
      (s.record clock .cleared)
  | undo {e : Snapshot} {h : History Snapshot} :
    s.history.undo? = some (e, h) →
    Succeeds clock s .undo (.showing (.ofSnapshot e) (s.goTo (e, h)).flags) (s.goTo (e, h))
  | redo {e : Snapshot} {h : History Snapshot} :
    s.history.redo? = some (e, h) →
    Succeeds clock s .redo (.showing (.ofSnapshot e) (s.goTo (e, h)).flags) (s.goTo (e, h))
  | state : Succeeds clock s .state (.state s.calculator s.history.info) s
  | history : Succeeds clock s .history (.history s.history.marked s.history.info) s

/-- What a request fails with. A move that is allowed but has no entry to move to fails in the
calculator. -/
inductive Fails (s : Session) : Request → Fault → Prop where
  | evaluate {e : Json.Document} {f : Fault} :
    Expression.evaluate e = .error f → Fails s (.evaluate e) f
  | undo : s.history.canUndo = false → Fails s .undo .nothingToUndo
  | redo : s.history.canRedo = false → Fails s .redo .nothingToRedo
  | undoLost : s.history.canUndo = true → s.history.undo? = none →
    Fails s .undo (.notSnapshot .null)
  | redoLost : s.history.canRedo = true → s.history.redo? = none →
    Fails s .redo (.notSnapshot .null)

variable {clock : Clock} {s s' : Session} {a : Answer}

theorem Succeeds.step_eq {r : Request} (h : Succeeds clock s r a s') :
    step clock s r = (.ok a, s') := by
  cases h with
  | evaluate hr hv => simp [step_evaluate_text, hr, hv]
  | undo hu => simp [step_undo, History.canUndo_of_undo? hu, hu]
  | redo hr => simp [step_redo, History.canRedo_of_redo? hr, hr]
  | _ => rfl

theorem Fails.step_eq {r : Request} {f : Fault} (h : Fails s r f) :
    step clock s r = (.error f, s) := by
  cases h with
  | @evaluate e _ he =>
    cases e with
    | text text =>
      obtain hc | ⟨rpn, hc, hv⟩ := bind_eq_error_iff.1 he
      · have hcompile : Expression.compileText text = .error f := hc
        simp [step_evaluate_text, hcompile]
      · have hcompile : Expression.compileText text = .ok rpn := hc
        simp [step_evaluate_text, hcompile, hv]
    | _ =>
      cases he
      rfl
  | undo hu => simp [step_undo, hu]
  | redo hr => simp [step_redo, hr]
  | undoLost hu hm => simp [step_undo, hu, hm]
  | redoLost hr hm => simp [step_redo, hr, hm]

theorem fails_or_succeeds (clock : Clock) (s : Session) (r : Request) :
    (∃ f, Fails s r f) ∨ ∃ a s', Succeeds clock s r a s' := by
  cases r with
  | evaluate e =>
    cases he : Expression.evaluate e with
    | error f => exact .inl ⟨f, .evaluate he⟩
    | ok value =>
      obtain ⟨text, rpn, rfl, hr, hv⟩ := Expression.exists_of_evaluate he
      exact .inr ⟨_, _, .evaluate hr hv⟩
  | clear => exact .inr ⟨_, _, .clear⟩
  | undo =>
    cases hu : s.history.canUndo with
    | false => exact .inl ⟨_, .undo hu⟩
    | true =>
      cases hm : s.history.undo? with
      | none => exact .inl ⟨_, .undoLost hu hm⟩
      | some r => exact .inr ⟨_, _, .undo hm⟩
  | redo =>
    cases hr : s.history.canRedo with
    | false => exact .inl ⟨_, .redo hr⟩
    | true =>
      cases hm : s.history.redo? with
      | none => exact .inl ⟨_, .redoLost hr hm⟩
      | some r => exact .inr ⟨_, _, .redo hm⟩
  | state => exact .inr ⟨_, _, .state⟩
  | history => exact .inr ⟨_, _, .history⟩

/-- A request fails, and then it has changed nothing before, or it succeeds. -/
theorem step_cases (clock : Clock) (s : Session) (r : Request) :
    (∃ f, Fails s r f ∧ step clock s r = (.error f, s)) ∨
      ∃ a s', Succeeds clock s r a s' ∧ step clock s r = (.ok a, s') := by
  obtain ⟨f, hf⟩ | ⟨a, s', hs⟩ := fails_or_succeeds clock s r
  · exact .inl ⟨f, hf, hf.step_eq⟩
  · exact .inr ⟨a, s', hs, hs.step_eq⟩

theorem finalState_invariant {P : Session → Prop}
    (hstep : ∀ s r a s', P s → Succeeds clock s r a s' → P s') (rs : List Request) (hs : P s) :
    P (finalState (step clock) s rs) := by
  induction rs generalizing s with
  | nil => exact hs
  | cons r rs ih =>
    change P (finalState (step clock) (step clock s r).2 rs)
    apply ih
    obtain ⟨f, -, he⟩ | ⟨a, s', hr, he⟩ := step_cases clock s r
    · rw [he]
      exact hs
    · rw [he]
      exact hstep s r a s' hs hr

theorem Reachable.invariant {P : Session → Prop} (h : Reachable clock s) (hstart : P (start clock))
    (hstep : ∀ s r a s', P s → Succeeds clock s r a s' → P s') : P s := by
  obtain ⟨rs, rfl⟩ := h
  exact finalState_invariant hstep rs hstart

end Session

end DeskCalculator
