import DeskCalculator.Json.Numeral

namespace DeskCalculator

inductive Fault where
  | blankExpression
  | badLiteral
  | unsupportedSymbol (c : Char)
  | unbalanced
  | unexpectedToken (text : String)
  | malformed
  | divisionByZero
  | nothingToUndo
  | nothingToRedo
  | notSnapshot (kind : Json.Kind)
  deriving DecidableEq

namespace Fault

inductive Category where
  | parse
  | division
  | precondition
  | argument
  deriving DecidableEq

def category : Fault → Category
  | .divisionByZero => .division
  | .nothingToUndo => .precondition
  | .nothingToRedo => .precondition
  | .notSnapshot _ => .argument
  | _ => .parse

def message : Fault → String
  | .blankExpression => "expression must be a non-empty string"
  | .badLiteral => "invalid numeric literal"
  | .unsupportedSymbol c => "unsupported symbol '" ++ c.toString ++ "'"
  | .unbalanced => "unbalanced parentheses"
  | .unexpectedToken text => "unexpected token: " ++ text
  | .malformed => "invalid expression"
  | .divisionByZero => "division by zero"
  | .nothingToUndo => "nothing to undo"
  | .nothingToRedo => "nothing to redo"
  | .notSnapshot kind => "expected Snapshot, got " ++ kind.name

end Fault

end DeskCalculator
