import DeskCalculator.Fault

namespace DeskCalculator

inductive Operator where
  | add
  | sub
  | mul
  | div
  deriving DecidableEq

namespace Operator

def symbol : Operator → Char
  | .add => '+'
  | .sub => '-'
  | .mul => '*'
  | .div => '/'

def ofSymbol? : Char → Option Operator
  | '+' => some .add
  | '-' => some .sub
  | '*' => some .mul
  | '/' => some .div
  | _ => none

def precedence : Operator → Nat
  | .add => 1
  | .sub => 1
  | .mul => 2
  | .div => 2

/-- The zeros of both signs are refused as divisors. -/
def apply : Operator → Float → Float → Except Fault Float
  | .add, x, y => .ok (x + y)
  | .sub, x, y => .ok (x - y)
  | .mul, x, y => .ok (x * y)
  | .div, x, y => if y == 0 then .error .divisionByZero else .ok (x / y)

theorem symbol_of_ofSymbol? {c : Char} {op : Operator} (h : ofSymbol? c = some op) :
    op.symbol = c := by
  unfold ofSymbol? at h
  split at h <;> simp_all [symbol] <;> subst h <;> rfl

theorem precedence_cases (op : Operator) : op.precedence = 1 ∨ op.precedence = 2 := by
  cases op <;> simp [precedence]

/-- Only a division fails, and only for its divisor. -/
theorem apply_eq_error_iff (op : Operator) (x y : Float) (f : Fault) :
    op.apply x y = .error f ↔ op = .div ∧ (y == 0) = true ∧ f = .divisionByZero := by
  cases op with
  | div =>
    by_cases h : (y == 0) = true
    · simp only [apply, h, if_true, Except.error.injEq, true_and]
      exact eq_comm
    · simp only [apply, h, reduceCtorEq, false_and, and_false]
      exact iff_false_intro (fun h' => by simp at h')
  | _ => simp only [apply, reduceCtorEq, false_and]

end Operator

end DeskCalculator
