import DeskCalculator.Proofs.Expression.Acceptance

namespace DeskCalculator

theorem outerOperators_append {depth : Nat} {xs : List Token} (h : closes depth xs = true)
    (ys : List Token) :
    outerOperators depth (xs ++ ys) = outerOperators depth xs ++ outerOperators 0 ys := by
  induction xs generalizing depth with
  | nil =>
    cases depth with
    | zero => rfl
    | succ depth => cases h
  | cons t xs ih =>
    cases t with
    | number text value => cases depth <;> exact ih h
    | operator op =>
      cases depth with
      | zero => exact congrArg (op :: ·) (ih h)
      | succ depth => exact ih h
    | lparen => cases depth <;> exact ih h
    | rparen =>
      cases depth with
      | zero => cases h
      | succ depth => exact ih h

/-- Inside parentheses there are no outer operators, however many more are closed there. -/
theorem outerOperators_inside {depth : Nat} {xs : List Token} (h : closes depth xs = true)
    (ys : List Token) : outerOperators (depth + 1) (xs ++ ys) = outerOperators 1 ys := by
  induction xs generalizing depth with
  | nil =>
    cases depth with
    | zero => rfl
    | succ depth => cases h
  | cons t xs ih =>
    cases t with
    | number text value => cases depth <;> exact ih h
    | operator op => cases depth <;> exact ih h
    | lparen => cases depth <;> exact ih h
    | rparen =>
      cases depth with
      | zero => cases h
      | succ depth => exact ih h

theorem outerOperators_paren {ts : List Token} (h : closes 0 ts = true) :
    outerOperators 0 (.lparen :: ts ++ [.rparen]) = [] := outerOperators_inside h [.rparen]

theorem forall_outerOperators_iff {xs : List Token} (h : closes 0 xs = true) {op : Operator}
    {ys : List Token} {P : Operator → Prop} :
    (∀ o ∈ outerOperators 0 (xs ++ .operator op :: ys), P o) ↔
      (∀ o ∈ outerOperators 0 xs, P o) ∧ P op ∧ ∀ o ∈ outerOperators 0 ys, P o := by
  rw [outerOperators_append h]
  change (∀ o ∈ outerOperators 0 xs ++ op :: outerOperators 0 ys, P o) ↔ _
  rw [List.forall_mem_append, List.forall_mem_cons]

namespace Derives

theorem toSum {level : Level} {ts : List Token} {t : Tree} (h : Derives level ts t) :
    Derives .sum ts t := by
  cases level with
  | sum => exact h
  | product => exact .product h
  | factor => exact .product (.factor h)

theorem closes {level : Level} {ts : List Token} {t : Tree} (h : Derives level ts t) :
    closes 0 ts = true := closes_of_toPostfix h.toSum.reorders.toPostfix_eq

theorem floor_le {level : Level} {ts : List Token} {t : Tree} (h : Derives level ts t) :
    ∀ op ∈ outerOperators 0 ts, level.floor ≤ op.precedence := by
  induction h with
  | number text value => simp [outerOperators]
  | paren h _ =>
    rw [outerOperators_paren h.closes]
    simp
  | factor _ ih => exact fun op hop => Nat.le_trans (by decide) (ih op hop)
  | mul hop hl _ ihl ihr =>
    rw [forall_outerOperators_iff hl.closes]
    exact ⟨ihl, Nat.le_of_eq hop.symm, fun o ho => Nat.le_trans (by decide) (ihr o ho)⟩
  | product _ ih => exact fun op hop => Nat.le_trans (by decide) (ih op hop)
  | add hop hl _ ihl ihr =>
    rw [forall_outerOperators_iff hl.closes]
    exact ⟨ihl, Nat.le_of_eq hop.symm, fun o ho => Nat.le_trans (by decide) (ihr o ho)⟩

theorem ofFactor {ts : List Token} {t : Tree} (h : Derives .factor ts t) (level : Level) :
    Derives level ts t := by
  cases level with
  | sum => exact h.toSum
  | product => exact .factor h
  | factor => exact h

theorem raise {level level' : Level} {ts : List Token} {t : Tree} (h : Derives level ts t)
    (hfloor : ∀ op ∈ outerOperators 0 ts, level'.floor ≤ op.precedence) :
    Derives level' ts t := by
  induction h with
  | number text value => exact (number text value).ofFactor level'
  | paren h _ => exact (paren h).ofFactor level'
  | factor _ ih => exact ih hfloor
  | product _ ih => exact ih hfloor
  | @mul xs ys l r op hop hl hr _ _ =>
    have hle := ((forall_outerOperators_iff hl.closes).1 hfloor).2.1
    rw [hop] at hle
    cases level' with
    | sum => exact (mul hop hl hr).toSum
    | product => exact mul hop hl hr
    | factor => simp [Level.floor] at hle
  | @add xs ys l r op hop hl hr _ _ =>
    have hle := ((forall_outerOperators_iff hl.closes).1 hfloor).2.1
    rw [hop] at hle
    cases level' with
    | sum => exact add hop hl hr
    | product => simp [Level.floor] at hle
    | factor => simp [Level.floor] at hle

end Derives

end DeskCalculator
