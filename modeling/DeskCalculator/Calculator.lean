import DeskCalculator.Expression.Evaluation
import DeskCalculator.Snapshot
import DeskCalculator.Trace

namespace DeskCalculator

structure Calculator where
  value : Float
  /-- How the value came about. -/
  label : String
  deriving DecidableEq

namespace Calculator

def initial : Calculator := ⟨0, "initial"⟩

def cleared : Calculator := ⟨0, "clear"⟩

/-- The snapshot of the calculator as it stands, its time left to the clock. -/
def draft (c : Calculator) : Snapshot.Draft := ⟨c.value, c.label, none⟩

def ofSnapshot (s : Snapshot) : Calculator := ⟨s.value, s.label⟩

/-- The value of some postfix tokens is shown; the text only names them. -/
def evaluatePostfix (text : String) (ts : List Token) : Operation Fault Calculator Float := do
  let value ← evalPostfix ts
  set (Calculator.mk value (Text.trim text))
  return value

/-- The value of an expression is shown. -/
def evaluate : Json.Document → Operation Fault Calculator Float
  | .text s => do evaluatePostfix s (← Expression.compileText s)
  | _ => throw .blankExpression

def clear : Operation Fault Calculator Unit := set cleared

/-- A snapshot is shown. A value of another kind is refused. -/
def restore (x : Except Json.Kind Snapshot) : Operation Fault Calculator Unit := do
  let s ← x.mapError Fault.notSnapshot
  set (ofSnapshot s)

def fields (c : Calculator) : List (String × Json Quantity) :=
  [("current_value", .double c.value), ("last_operation", .text c.label)]

def toJson (c : Calculator) : Json Quantity := .object c.fields

theorem perform_evaluatePostfix (text : String) (ts : List Token) (c : Calculator) :
    (evaluatePostfix text ts).perform c =
      match evalPostfix ts with
      | .ok value => (.ok value, ⟨value, Text.trim text⟩)
      | .error f => (.error f, c) := by
  rw [evaluatePostfix]
  cases evalPostfix ts with
  | ok value => exact Operation.perform_bind_of_ok (Operation.perform_lift _ _) _
  | error f => exact Operation.perform_bind_of_error (Operation.perform_lift _ _) _

theorem perform_evaluate (e : Json.Document) (c : Calculator) :
    (evaluate e).perform c =
      match Expression.evaluate e with
      | .ok value => (.ok value, ⟨value, Text.trim (e.text?.getD "")⟩)
      | .error f => (.error f, c) := by
  cases e with
  | text s =>
    change (_ >>= fun ts => evaluatePostfix s ts).perform c = _
    rw [Expression.evaluate, Expression.compile]
    cases Expression.compileText s with
    | ok ts =>
      rw [Operation.perform_bind_of_ok (Operation.perform_lift _ _)]
      exact perform_evaluatePostfix s ts c
    | error f => exact Operation.perform_bind_of_error (Operation.perform_lift _ _) _
  | _ => rfl

theorem perform_restore (x : Except Json.Kind Snapshot) (c : Calculator) :
    (restore x).perform c =
      match x with
      | .ok s => (.ok (), ofSnapshot s)
      | .error kind => (.error (.notSnapshot kind), c) := by
  cases x <;> rfl

end Calculator

end DeskCalculator
