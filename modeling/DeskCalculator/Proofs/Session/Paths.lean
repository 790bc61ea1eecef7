import DeskCalculator.Calculator.Workbench
import DeskCalculator.Proofs.Expression.Rereading
import DeskCalculator.Proofs.Session.Steps

namespace DeskCalculator

namespace Workbench

variable (clock : Clock) (w : Workbench)

/-- The calculator gets a value together with its postfix tokens; what does not compile never
reaches it. -/
def stepCompiled (e : Json.Document) : Except Fault Answer × Workbench :=
  let op : Operation Fault Workbench Answer := do
    let rpn ← Expression.compile e
    answer clock (.evaluatePostfix (e.text?.getD "") rpn)
  op.perform w

theorem stepCompiled_eq (e : Json.Document) :
    stepCompiled clock w e = step clock w (.evaluate e) := by
  rw [stepCompiled, step_evaluate, Expression.evaluate]
  cases Expression.compile e with
  | error f => exact Operation.perform_bind_of_error (Operation.perform_lift _ _) _
  | ok rpn =>
    rw [Operation.perform_bind_of_ok (Operation.perform_lift _ _)]
    exact step_evaluatePostfix clock w (e.text?.getD "") rpn

end Workbench

/-- Whatever value is sent, its evaluation as an expression, by a calculator, by a calculator that
also gets the postfix tokens, and in a session have the same outcome. A fault changes nothing; a
value is shown with the trimmed text as its label, and the texts of the postfix tokens in the
session's answer are enough to calculate it again. -/
theorem evaluation_paths_agree (clock : Clock) (e : Json.Document) (w : Workbench) (s : Session) :
    match Expression.evaluate e with
    | .error f =>
      Workbench.step clock w (.evaluate e) = (.error f, w) ∧
        Workbench.stepCompiled clock w e = (.error f, w) ∧
        Session.step clock s (.evaluate e) = (.error f, s)
    | .ok value =>
      ∃ text rpn flags s', e = .text text ∧ Expression.compile e = .ok rpn ∧
        Workbench.step clock w (.evaluate e) =
          (.ok (.value value), w.showing ⟨value, Text.trim text⟩) ∧
        Workbench.stepCompiled clock w e =
          (.ok (.value value), w.showing ⟨value, Text.trim text⟩) ∧
        Session.step clock s (.evaluate e) =
          (.ok (.evaluated value (Text.trim text) (rpn.map Token.text) flags), s') ∧
        s'.calculator = ⟨value, Text.trim text⟩ ∧
        ((rpn.map Token.text).mapM Token.ofText >>= evalPostfix) = .ok value := by
  rw [Workbench.stepCompiled_eq, Workbench.step_evaluate]
  cases h : Expression.evaluate e with
  | error f => exact ⟨rfl, rfl, (Session.Fails.evaluate h).step_eq⟩
  | ok value =>
    obtain ⟨text, rpn, rfl, hr, hv⟩ := Expression.exists_of_evaluate h
    have hs : Session.Succeeds clock s (.evaluate (.text text)) _ _ := .evaluate hr hv
    have hreread : ((rpn.map Token.text).mapM Token.ofText >>= evalPostfix) = .ok value := by
      rw [Expression.mapM_ofText_of_compileText hr]
      exact hv
    exact ⟨text, rpn, _, _, rfl, hr, rfl, rfl, hs.step_eq, rfl, hreread⟩

end DeskCalculator
