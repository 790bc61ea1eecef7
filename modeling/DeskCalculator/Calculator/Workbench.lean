import DeskCalculator.Calculator

namespace DeskCalculator

/-- A calculator on its own, with numbered slots that keep the snapshots saved from it. -/
structure Workbench where
  calculator : Calculator
  /-- Slot 0 comes first. -/
  slots : List Snapshot
  /-- How often the clock has been read. -/
  readings : Nat
  deriving DecidableEq

namespace Workbench

def initial : Workbench := ⟨.initial, [], 0⟩

inductive Step where
  | evaluate (e : Json.Document)
  /-- Evaluates ready postfix tokens; the text only becomes the label. -/
  | evaluatePostfix (text : String) (ts : List Token)
  | clear
  | save
  | restore (slot : Nat)
  | restoreDraft (d : Snapshot.Draft)
  | restoreValue (v : Json.Document)

inductive Answer where
  | done
  | value (x : Float)
  | saved (s : Snapshot)
  deriving DecidableEq

def showing (w : Workbench) (c : Calculator) : Workbench := { w with calculator := c }

/-- What a slot holds; where it holds nothing, that is null. -/
def saved (w : Workbench) (slot : Nat) : Except Json.Kind Snapshot :=
  match w.slots[slot]? with
  | some s => .ok s
  | none => .error .null

/-- An operation on the calculator of a workbench. -/
def onCalculator {α : Type} (op : Operation Fault Calculator α) : Operation Fault Workbench α :=
  op.on Workbench.calculator Workbench.showing

/-- A snapshot made from a draft, for which the clock may have to be read. -/
def make (clock : Clock) (d : Snapshot.Draft) : Operation Fault Workbench Snapshot := do
  let (s, readings) := d.make clock (← get).readings
  modify fun w => { w with readings }
  return s

def answer (clock : Clock) : Step → Operation Fault Workbench Answer
  | .evaluate e => return .value (← onCalculator (Calculator.evaluate e))
  | .evaluatePostfix text ts => return .value (← onCalculator (Calculator.evaluatePostfix text ts))
  | .clear => do
    onCalculator Calculator.clear
    return .done
  | .save => do
    let s ← make clock (← get).calculator.draft
    modify fun w => { w with slots := w.slots ++ [s] }
    return .saved s
  | .restore slot => do
    onCalculator (Calculator.restore ((← get).saved slot))
    return .done
  | .restoreDraft d => do
    onCalculator (Calculator.restore (.ok (← make clock d)))
    return .done
  | .restoreValue v => do
    onCalculator (Calculator.restore (.error v.kind))
    return .done

def step (clock : Clock) (w : Workbench) (s : Step) : Except Fault Answer × Workbench :=
  (answer clock s).perform w

def run (clock : Clock) (steps : List Step) : List (Except Fault Answer × Workbench) :=
  trace (step clock) initial steps

def Answer.toJson : Answer → Json Quantity
  | .done => .null
  | .value x => .double x
  | .saved s => s.toJson

variable (clock : Clock) (w : Workbench)

theorem perform_onCalculator {α : Type} {op : Operation Fault Calculator α} {r : Except Fault α}
    {c : Calculator} (h : op.perform w.calculator = (r, c)) :
    (onCalculator op).perform w = (r, w.showing c) := Operation.perform_on h

/-- An evaluation answers with the value that it shows. -/
theorem perform_value {op : Operation Fault Calculator Float} {r : Except Fault Float}
    {c : Calculator} (h : op.perform w.calculator = (r, c)) :
    (onCalculator op >>= fun x => pure (Answer.value x)).perform w =
      (r.map Answer.value, w.showing c) := by
  cases r with
  | ok value => exact Operation.perform_bind_of_ok (perform_onCalculator w h) _
  | error f => exact Operation.perform_bind_of_error (perform_onCalculator w h) _

theorem step_evaluatePostfix (text : String) (ts : List Token) :
    step clock w (.evaluatePostfix text ts) =
      match evalPostfix ts with
      | .ok value => (.ok (.value value), w.showing ⟨value, Text.trim text⟩)
      | .error f => (.error f, w) := by
  have hc := Calculator.perform_evaluatePostfix text ts w.calculator
  cases h : evalPostfix ts <;> rw [h] at hc <;> exact perform_value w hc

theorem step_evaluate (e : Json.Document) :
    step clock w (.evaluate e) =
      match Expression.evaluate e with
      | .ok value => (.ok (.value value), w.showing ⟨value, Text.trim (e.text?.getD "")⟩)
      | .error f => (.error f, w) := by
  have hc := Calculator.perform_evaluate e w.calculator
  cases h : Expression.evaluate e <;> rw [h] at hc <;> exact perform_value w hc

theorem step_restore (slot : Nat) :
    step clock w (.restore slot) =
      match w.slots[slot]? with
      | some s => (.ok .done, w.showing (.ofSnapshot s))
      | none => (.error (.notSnapshot .null), w) := by
  change (onCalculator (Calculator.restore (w.saved slot)) >>= _).perform w = _
  rw [saved]
  cases w.slots[slot]? with
  | some s =>
    have hc := Calculator.perform_restore (.ok s) w.calculator
    exact Operation.perform_bind_of_ok (perform_onCalculator w hc) _
  | none =>
    have hc := Calculator.perform_restore (.error .null) w.calculator
    exact Operation.perform_bind_of_error (perform_onCalculator w hc) _

end Workbench

end DeskCalculator
