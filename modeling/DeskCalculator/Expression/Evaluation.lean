import DeskCalculator.Expression.Postfix

namespace DeskCalculator

namespace Postfix

/-- The top of the stack is the right operand. -/
def evalStep (st : List Float) : Token → Except Fault (List Float)
  | .number _ value => .ok (value :: st)
  | .operator op =>
    match st with
    | y :: x :: rest => (op.apply x y).map (· :: rest)
    | _ => .error .malformed
  | .lparen => .error (.unexpectedToken Token.lparen.text)
  | .rparen => .error (.unexpectedToken Token.rparen.text)

def evalFrom (st : List Float) (ts : List Token) : Except Fault (List Float) :=
  ts.foldlM evalStep st

end Postfix

/-- The one value that the tokens leave on the stack. -/
def evalPostfix (ts : List Token) : Except Fault Float :=
  match Postfix.evalFrom [] ts with
  | .ok [value] => .ok value
  | .ok _ => .error .malformed
  | .error f => .error f

namespace Expression

/-- A text in postfix order. A blank text is refused before it is looked at any closer. -/
def compileText (s : String) : Except Fault (List Token) :=
  if Text.allBlank s then .error .blankExpression
  else tokenize s >>= toPostfix

/-- Only texts are expressions; any other value counts as a blank one. -/
def compile : Json.Document → Except Fault (List Token)
  | .text s => compileText s
  | _ => .error .blankExpression

def evaluate (e : Json.Document) : Except Fault Float := compile e >>= evalPostfix

end Expression

namespace Postfix

theorem evalFrom_append (st : List Float) (xs ys : List Token) :
    evalFrom st (xs ++ ys) = evalFrom st xs >>= fun st => evalFrom st ys := by
  simp [evalFrom, List.foldlM_append]

end Postfix

end DeskCalculator
