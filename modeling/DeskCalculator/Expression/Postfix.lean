import DeskCalculator.Expression.Token

namespace DeskCalculator

namespace Postfix

/-- What waits for the tokens to its right. -/
inductive Pending where
  | operator (op : Operator)
  | paren
  deriving DecidableEq

/-- The pending items, the latest on top. -/
abbrev Stack := List Pending

/-- The operators that stand above the topmost parenthesis and satisfy `p` in one run from the
top, and the stack below them. -/
def popWhile (p : Operator → Bool) : Stack → List Operator × Stack
  | .operator op :: st =>
    if p op then
      let (ops, rest) := popWhile p st
      (op :: ops, rest)
    else ([], .operator op :: st)
  | st => ([], st)

/-- The tokens that one more token releases, and the stack after it. An operator releases those
that bind at least as tightly, which makes all of them left associative. -/
def step (st : Stack) : Token → Except Fault (List Token × Stack)
  | .number text value => .ok ([.number text value], st)
  | .operator op =>
    let (ops, rest) := popWhile (fun o => decide (op.precedence ≤ o.precedence)) st
    .ok (ops.map .operator, .operator op :: rest)
  | .lparen => .ok ([], .paren :: st)
  | .rparen =>
    match popWhile (fun _ => true) st with
    | (ops, .paren :: rest) => .ok (ops.map .operator, rest)
    | _ => .error .unbalanced

/-- At the end all pending operators are released; no parenthesis may be open. -/
def drain : Stack → Except Fault (List Token)
  | [] => .ok []
  | .operator op :: st => (drain st).map (.operator op :: ·)
  | .paren :: _ => .error .unbalanced

def convert (st : Stack) : List Token → Except Fault (List Token)
  | [] => drain st
  | t :: ts => do
    let (out, st) ← step st t
    let rest ← convert st ts
    return out ++ rest

/-- The stack after some tokens. -/
def stackAfter (st : Stack) : List Token → Except Fault Stack
  | [] => .ok st
  | t :: ts => do
    let (_, st) ← step st t
    stackAfter st ts

end Postfix

/-- The same numbers and operators in postfix order, without parentheses. Only the balance of the
parentheses is checked here; whether operands and operators fit is found in the evaluation. -/
def toPostfix (ts : List Token) : Except Fault (List Token) := Postfix.convert [] ts

end DeskCalculator
