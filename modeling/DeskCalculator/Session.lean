import DeskCalculator.Calculator
import DeskCalculator.History.Journal

namespace DeskCalculator

/-- A calculator together with the history of its snapshots. -/
structure Session where
  calculator : Calculator
  history : History Snapshot
  /-- How often the clock has been read. -/
  readings : Nat
  deriving DecidableEq

namespace Session

/-- The calculator takes over `c`, and a snapshot of it becomes the current entry. -/
def record (clock : Clock) (s : Session) (c : Calculator) : Session :=
  let (entry, readings) := c.draft.make clock s.readings
  ⟨c, s.history.push entry, readings⟩

/-- The first entry is recorded at the start, so nothing can be undone past it. -/
def start (clock : Clock) : Session := record clock ⟨.initial, .empty, 0⟩ .initial

/-- The history stands at another entry, which the calculator takes over. -/
def goTo (s : Session) (r : Snapshot × History Snapshot) : Session :=
  { s with calculator := .ofSnapshot r.1, history := r.2 }

inductive Request where
  | evaluate (e : Json.Document)
  | clear
  | undo
  | redo
  | state
  | history

structure Flags where
  canUndo : Bool
  canRedo : Bool
  deriving DecidableEq

def flags (s : Session) : Flags := ⟨s.history.canUndo, s.history.canRedo⟩

inductive Answer where
  | evaluated (value : Float) (expression : String) (rpn : List String) (flags : Flags)
  | showing (calculator : Calculator) (flags : Flags)
  | state (calculator : Calculator) (info : History.Info)
  | history (marked : List (Snapshot × Bool)) (info : History.Info)
  deriving DecidableEq

/-- An operation on the calculator of a session. -/
def onCalculator {α : Type} (op : Operation Fault Calculator α) : Operation Fault Session α :=
  op.on Session.calculator fun s c => { s with calculator := c }

/-- A snapshot of the calculator becomes the current entry. -/
def push (clock : Clock) : Operation Fault Session Unit :=
  modify fun s => s.record clock s.calculator

def showing : Operation Fault Session Answer := do
  let s ← get
  return .showing s.calculator s.flags

def stateAnswer (s : Session) : Answer := .state s.calculator s.history.info

def evaluateText (clock : Clock) (text : String) : Operation Fault Session Answer := do
  let rpn ← Expression.compileText text
  let value ← onCalculator (Calculator.evaluatePostfix text rpn)
  push clock
  let s ← get
  return .evaluated value s.calculator.label (rpn.map Token.text) s.flags

/-- The history moves, if it can, and gives the entry that it moves to. -/
def moveHistory (move : History Snapshot → Option (Snapshot × History Snapshot)) :
    Operation Fault Session (Except Json.Kind Snapshot) := do
  match move (← get).history with
  | some (e, history) =>
    modify fun s => { s with history }
    return .ok e
  | none => return .error .null

/-- A move in the history, which the calculator follows. -/
def follow (allowed : History Snapshot → Bool) (refusal : Fault)
    (move : History Snapshot → Option (Snapshot × History Snapshot)) :
    Operation Fault Session Answer := do
  if !allowed (← get).history then throw refusal
  onCalculator (Calculator.restore (← moveHistory move))
  showing

def answer (clock : Clock) : Request → Operation Fault Session Answer
  | .evaluate (.text text) => evaluateText clock text
  | .evaluate _ => throw .blankExpression
  | .clear => do
    onCalculator Calculator.clear
    push clock
    showing
  | .undo => follow History.canUndo .nothingToUndo History.undo?
  | .redo => follow History.canRedo .nothingToRedo History.redo?
  | .state => return (← get).stateAnswer
  | .history => do
    let s ← get
    return .history s.history.marked s.history.info

def step (clock : Clock) (s : Session) (r : Request) : Except Fault Answer × Session :=
  (answer clock r).perform s

def run (clock : Clock) (rs : List Request) : List (Except Fault Answer × Session) :=
  trace (step clock) (start clock) rs

/-- The sessions that requests lead to from the start. -/
def Reachable (clock : Clock) (s : Session) : Prop :=
  ∃ rs : List Request, s = finalState (step clock) (start clock) rs

def Flags.fields (f : Flags) : List (String × Json Quantity) :=
  [("can_undo", .bool f.canUndo), ("can_redo", .bool f.canRedo)]

def Answer.toJson : Answer → Json Quantity
  | .evaluated value expression rpn flags =>
    .object ([("result", .double value), ("expression", .text expression),
      ("rpn", .array (rpn.map .text))] ++ flags.fields)
  | .showing c flags => .object (c.fields ++ flags.fields)
  | .state c info => .object (c.fields ++ [("history_info", info.toJson)])
  | .history marked info =>
    .object [("history", Journal.markedJson marked), ("info", info.toJson)]

theorem record_eq (clock : Clock) (s : Session) (c : Calculator) :
    s.record clock c =
      ⟨c, s.history.push ⟨c.value, c.label, clock s.readings⟩, s.readings + 1⟩ := rfl

theorem start_eq (clock : Clock) :
    start clock = ⟨.initial, ⟨[⟨0, "initial", clock 0⟩], 1⟩, 1⟩ := rfl

variable (clock : Clock) (s : Session)

theorem perform_onCalculator {α : Type} {op : Operation Fault Calculator α} {r : Except Fault α}
    {c : Calculator} (h : op.perform s.calculator = (r, c)) :
    (onCalculator op).perform s = (r, { s with calculator := c }) := Operation.perform_on h

theorem step_evaluate_text (text : String) :
    step clock s (.evaluate (.text text)) =
      match Expression.compileText text with
      | .error f => (.error f, s)
      | .ok rpn =>
        match evalPostfix rpn with
        | .error f => (.error f, s)
        | .ok value =>
          let s := s.record clock ⟨value, Text.trim text⟩
          (.ok (.evaluated value (Text.trim text) (rpn.map Token.text) s.flags), s) := by
  change (evaluateText clock text).perform s = _
  rw [evaluateText]
  cases Expression.compileText text with
  | error f => exact Operation.perform_bind_of_error (Operation.perform_lift _ _) _
  | ok rpn =>
    have hc := Calculator.perform_evaluatePostfix text rpn s.calculator
    rw [Operation.perform_bind_of_ok (Operation.perform_lift _ _)]
    dsimp only
    cases hv : evalPostfix rpn with
    | error f =>
      rw [hv] at hc
      exact Operation.perform_bind_of_error (perform_onCalculator s hc) _
    | ok value =>
      rw [hv] at hc
      exact Operation.perform_bind_of_ok (perform_onCalculator s hc) _

theorem perform_moveHistory (move : History Snapshot → Option (Snapshot × History Snapshot)) :
    (moveHistory move).perform s =
      match move s.history with
      | some (e, history) => (.ok (.ok e), { s with history })
      | none => (.ok (.error .null), s) := by
  rw [moveHistory, Operation.perform_bind_of_ok (Operation.perform_get s)]
  cases move s.history <;> rfl

/-- Where a move has no entry, the calculator is handed null, which it refuses. -/
theorem perform_follow (allowed : History Snapshot → Bool) (refusal : Fault)
    (move : History Snapshot → Option (Snapshot × History Snapshot)) :
    (follow allowed refusal move).perform s =
      if allowed s.history then
        match move s.history with
        | some r => (.ok (.showing (.ofSnapshot r.1) (s.goTo r).flags), s.goTo r)
        | none => (.error (.notSnapshot .null), s)
      else (.error refusal, s) := by
  rw [follow, Operation.perform_bind_of_ok (Operation.perform_get s)]
  cases allowed s.history with
  | false => rfl
  | true =>
    have hm := perform_moveHistory s move
    change (moveHistory move >>= fun x => onCalculator (Calculator.restore x) >>= fun _ =>
      showing).perform s = _
    cases h : move s.history with
    | some r =>
      rw [h] at hm
      have hc := Calculator.perform_restore (.ok r.1) s.calculator
      rw [Operation.perform_bind_of_ok hm]
      exact Operation.perform_bind_of_ok (perform_onCalculator { s with history := r.2 } hc) _
    | none =>
      rw [h] at hm
      have hc := Calculator.perform_restore (.error .null) s.calculator
      rw [Operation.perform_bind_of_ok hm]
      exact Operation.perform_bind_of_error (perform_onCalculator s hc) _

theorem step_undo :
    step clock s .undo =
      if s.history.canUndo then
        match s.history.undo? with
        | some r => (.ok (.showing (.ofSnapshot r.1) (s.goTo r).flags), s.goTo r)
        | none => (.error (.notSnapshot .null), s)
      else (.error .nothingToUndo, s) := perform_follow s _ _ _

theorem step_redo :
    step clock s .redo =
      if s.history.canRedo then
        match s.history.redo? with
        | some r => (.ok (.showing (.ofSnapshot r.1) (s.goTo r).flags), s.goTo r)
        | none => (.error (.notSnapshot .null), s)
      else (.error .nothingToRedo, s) := perform_follow s _ _ _

end Session

end DeskCalculator
