import DeskCalculator.Expression.Operator
import DeskCalculator.Number.Binary64
import DeskCalculator.Text.Digits
import DeskCalculator.Text.Parts

namespace DeskCalculator

namespace Literal

/-- The characters of which literals consist. -/
def isNumeric (c : Char) : Bool := c.isDigit || c == '.'

def isLiteral (cs : List Char) : Bool :=
  cs.all isNumeric && cs.any Char.isDigit && decide (cs.count '.' ≤ 1)

/-- The digits read as one whole number, the point left out. -/
def numerator (cs : List Char) : Nat := Text.digitsValue (cs.filter Char.isDigit)

/-- How many digits follow the point. -/
def places (cs : List Char) : Nat := (cs.dropWhile (· != '.')).tail.length

def value (cs : List Char) : Float := Number.nearest (numerator cs) (Nat.pow 10 (places cs))

end Literal

inductive Token where
  /-- A number is calculated with its value and shown as its text. -/
  | number (text : String) (value : Float)
  | operator (op : Operator)
  | lparen
  | rparen
  deriving DecidableEq

namespace Token

def text : Token → String
  | .number text _ => text
  | .operator op => op.symbol.toString
  | .lparen => "("
  | .rparen => ")"

def ofSymbol (c : Char) : Except Fault Token :=
  if c = '(' then .ok .lparen
  else if c = ')' then .ok .rparen
  else match Operator.ofSymbol? c with
    | some op => .ok (.operator op)
    | none => .error (.unsupportedSymbol c)

def ofLiteral (cs : List Char) : Except Fault Token :=
  if Literal.isLiteral cs then .ok (.number (String.ofList cs) (Literal.value cs))
  else .error .badLiteral

/-- A piece is a single character that is not numeric, or a run of numeric ones. -/
def ofPiece : List Char → Except Fault Token
  | [c] => if Literal.isNumeric c then ofLiteral [c] else ofSymbol c
  | cs => ofLiteral cs

/-- Maximal runs of numeric characters, and every other character by itself. -/
def pieces : List Char → List (List Char)
  | [] => []
  | c :: cs =>
    match pieces cs with
    | (d :: run) :: rest =>
      if Literal.isNumeric c && Literal.isNumeric d then (c :: d :: run) :: rest
      else [c] :: (d :: run) :: rest
    | rest => [c] :: rest

end Token

/-- The tokens of a text, or the fault of its leftmost faulty piece. Blanks are dropped before,
wherever they stand, so they never part two digits. -/
def tokenize (s : String) : Except Fault (List Token) :=
  (Token.pieces (Text.removeBlanks s.toList)).mapM Token.ofPiece

namespace Token

theorem pieces_ne_nil {cs p : List Char} (hp : p ∈ pieces cs) : p ≠ [] := by
  induction cs generalizing p with
  | nil => simp [pieces] at hp
  | cons c cs ih =>
    unfold pieces at hp
    split at hp
    next d run rest h =>
      rw [h] at ih
      split at hp <;> rcases List.mem_cons.1 hp with rfl | hp
      · simp
      · exact ih (List.mem_cons_of_mem _ hp)
      · simp
      · exact ih hp
    next rest h =>
      rcases List.mem_cons.1 hp with rfl | hp
      · simp
      · exact ih hp

end Token

end DeskCalculator
