import DeskCalculator.Expression.Tree

namespace DeskCalculator

/-- What a phrase may be without parentheses around it. -/
inductive Level where
  | sum
  | product
  | factor
  deriving DecidableEq

/-- The tokens are a phrase of the level, and the tree is its structure. Sums and products grow to
the right, which is left associativity. -/
inductive Derives : Level → List Token → Tree → Prop where
  | number (text : String) (value : Float) :
    Derives .factor [.number text value] (.leaf text value)
  | paren {ts : List Token} {t : Tree} :
    Derives .sum ts t → Derives .factor (.lparen :: ts ++ [.rparen]) t
  | factor {ts : List Token} {t : Tree} : Derives .factor ts t → Derives .product ts t
  | mul {xs ys : List Token} {l r : Tree} {op : Operator} :
    op.precedence = 2 → Derives .product xs l → Derives .factor ys r →
    Derives .product (xs ++ .operator op :: ys) (.node op l r)
  | product {ts : List Token} {t : Tree} : Derives .product ts t → Derives .sum ts t
  | add {xs ys : List Token} {l r : Tree} {op : Operator} :
    op.precedence = 1 → Derives .sum xs l → Derives .product ys r →
    Derives .sum (xs ++ .operator op :: ys) (.node op l r)

namespace Token

/-- The token that its own text is read as. -/
def WellFormed (t : Token) : Prop := ofPiece t.text.toList = .ok t

def endsOperand : Token → Bool
  | .number _ _ => true
  | .rparen => true
  | _ => false

def startsOperand : Token → Bool
  | .number _ _ => true
  | .lparen => true
  | _ => false

end Token

/-- Somewhere an operand is followed by another one at once. -/
def Juxtaposed (ts : List Token) : Prop :=
  ∃ xs a b ys, ts = xs ++ a :: b :: ys ∧ a.endsOperand = true ∧ b.startsOperand = true

/-- After so many open parentheses, the tokens close them all and never one too many. -/
def closes : (depth : Nat) → List Token → Bool
  | 0, [] => true
  | _ + 1, [] => false
  | depth, .lparen :: ts => closes (depth + 1) ts
  | 0, .rparen :: _ => false
  | depth + 1, .rparen :: ts => closes depth ts
  | depth, _ :: ts => closes depth ts

/-- The operators outside all parentheses, where `depth` ones are open before the tokens. -/
def outerOperators : (depth : Nat) → List Token → List Operator
  | _, [] => []
  | depth, .lparen :: ts => outerOperators (depth + 1) ts
  | depth, .rparen :: ts => outerOperators (depth - 1) ts
  | 0, .operator op :: ts => op :: outerOperators 0 ts
  | depth, _ :: ts => outerOperators depth ts

end DeskCalculator
