import DeskCalculator.Expression.Evaluation

namespace DeskCalculator

inductive Tree where
  | leaf (text : String) (value : Float)
  | node (op : Operator) (left right : Tree)
  deriving DecidableEq

namespace Tree

/-- The operands are evaluated before the operator, the left one first. -/
def eval : Tree → Except Fault Float
  | .leaf _ value => .ok value
  | .node op l r => do
    let x ← l.eval
    let y ← r.eval
    op.apply x y

def postorder : Tree → List Token
  | .leaf text value => [.number text value]
  | .node op l r => l.postorder ++ r.postorder ++ [.operator op]

/-- Some division in the tree has a divisor that evaluates to zero. -/
def DividesByZero : Tree → Prop
  | .leaf _ _ => False
  | .node op l r =>
    l.DividesByZero ∨ r.DividesByZero ∨ op = .div ∧ ∃ y, r.eval = .ok y ∧ (y == 0) = true

/-- Whatever is on the stack, the postorder of a tree leaves the tree's value on top of it. -/
theorem evalFrom_postorder (t : Tree) (st : List Float) :
    Postfix.evalFrom st t.postorder = t.eval.map (· :: st) := by
  induction t generalizing st with
  | leaf text value => rfl
  | node op l r ihl ihr =>
    rw [postorder, Postfix.evalFrom_append, Postfix.evalFrom_append, ihl, eval]
    cases hl : l.eval with
    | error f => rfl
    | ok x =>
      change (Postfix.evalFrom (x :: st) r.postorder >>= _) = _
      rw [ihr]
      cases hr : r.eval with
      | error f => rfl
      | ok y =>
        change Postfix.evalFrom (y :: x :: st) [.operator op] = _
        cases ho : op.apply x y <;>
          simp [Postfix.evalFrom, Postfix.evalStep, ho, bind, Except.bind, Except.map, pure,
            Except.pure]

theorem evalPostfix_postorder (t : Tree) : evalPostfix t.postorder = t.eval := by
  rw [evalPostfix, evalFrom_postorder]
  cases t.eval <;> rfl

end Tree

end DeskCalculator
