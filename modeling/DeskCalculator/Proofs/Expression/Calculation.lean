import DeskCalculator.Proofs.Expression.Valuation
import Mathlib

namespace DeskCalculator

namespace Tree

theorem evalFrom_postorders {trees : List Tree} {st : List Float} (h : Evaluate trees st) :
    Postfix.evalFrom [] (postorders trees) = .ok st := by
  induction h with
  | nil => rfl
  | @cons t value _ st ht _ ih =>
    rw [postorders, Postfix.evalFrom_append, ih]
    change Postfix.evalFrom st t.postorder = _
    rw [t.evalFrom_postorder, ht]
    rfl

end Tree

namespace Postfix

theorem beq_zero_iff {x : Float} : (x == 0) = true ↔ x = 0 ∨ x = -0 := by
  have hne : (0 : Float) ≠ Float.nan := by decide +kernel
  rw [Float.beq_iff_ne_nan_and_eq]
  constructor
  · intro h
    obtain ⟨-, -, h | h | h⟩ := h
    · exact .inl h
    · exact .inl h.1
    · exact .inr h.1
  · intro h
    obtain rfl | rfl := h
    · exact ⟨hne, hne, .inl rfl⟩
    · exact ⟨by decide +kernel, hne, .inr (.inr ⟨rfl, rfl⟩)⟩

/-- The values that tokens leave on the stack, the latest on top: those of the trees that the
tokens are the postorders of. -/
def Leaves (ts : List Token) (st : List Float) : Prop :=
  ∃ trees, ts = Tree.postorders trees ∧ Tree.Evaluate trees st

theorem evalFrom_eq_ok_iff {ts : List Token} {st : List Float} :
    evalFrom [] ts = .ok st ↔ Leaves ts st := by
  constructor
  · intro h
    obtain ⟨trees, htrees, he⟩ := exists_trees .nil h
    exact ⟨trees, by simpa [Tree.postorders] using he, htrees⟩
  · intro h
    obtain ⟨trees, rfl, htrees⟩ := h
    exact Tree.evalFrom_postorders htrees

theorem Leaves.eq {ts : List Token} {st st' : List Float} (h : Leaves ts st)
    (h' : Leaves ts st') : st = st' := by
  have he := evalFrom_eq_ok_iff.2 h
  rw [evalFrom_eq_ok_iff.2 h', Except.ok.injEq] at he
  exact he.symm

/-- Why a token cannot be calculated behind the tokens before it: it is a parenthesis, or an
operator that lacks an operand, or a division by a zero of either sign. -/
inductive FaultAfter (before : List Token) : Token → Fault → Prop where
  | lparen : FaultAfter before .lparen (.unexpectedToken "(")
  | rparen : FaultAfter before .rparen (.unexpectedToken ")")
  | operand {op : Operator} {st : List Float} :
    Leaves before st → st.length < 2 → FaultAfter before (.operator op) .malformed
  | divisor {x y : Float} {st : List Float} :
    Leaves before (y :: x :: st) → y = 0 ∨ y = -0 →
    FaultAfter before (.operator .div) .divisionByZero

/-- The token at a position cannot be calculated there. -/
def FaultAt (ts : List Token) (k : Nat) (f : Fault) : Prop :=
  ∃ t, ts[k]? = some t ∧ FaultAfter (ts.take k) t f

theorem evalStep_eq_error_iff {before : List Token} {st : List Float} (h : Leaves before st)
    {t : Token} {f : Fault} : evalStep st t = .error f ↔ FaultAfter before t f := by
  constructor
  · intro hf
    cases t with
    | number text value => cases hf
    | lparen =>
      cases hf
      exact .lparen
    | rparen =>
      cases hf
      exact .rparen
    | operator op =>
      rcases st with _ | ⟨y, _ | ⟨x, st⟩⟩
      · cases hf
        exact .operand h (by simp)
      · cases hf
        exact .operand h (by simp)
      · obtain ⟨rfl, hy, rfl⟩ := (op.apply_eq_error_iff x y f).1 (map_eq_error_iff.1 hf)
        exact .divisor h (beq_zero_iff.1 hy)
  · intro hf
    cases hf with
    | lparen => rfl
    | rparen => rfl
    | @operand op st' h' hlt =>
      rw [h.eq h']
      rcases st' with _ | ⟨y, _ | ⟨x, st'⟩⟩
      · rfl
      · rfl
      · simp at hlt
    | @divisor x y st' h' hy =>
      rw [h.eq h']
      have ha := (Operator.div.apply_eq_error_iff x y .divisionByZero).2
        ⟨rfl, beq_zero_iff.2 hy, rfl⟩
      exact map_eq_error_iff.2 ha

theorem faultAt_append {before after : List Token} {t : Token} {f : Fault} :
    FaultAt (before ++ t :: after) before.length f ↔ FaultAfter before t f := by
  simp [FaultAt]

theorem faultAt_take {ts : List Token} {j k : Nat} (h : j < k) {f : Fault} :
    FaultAt (ts.take k) j f ↔ FaultAt ts j f := by
  rw [FaultAt, FaultAt, List.getElem?_take_of_lt h, List.take_take, Nat.min_eq_left (by omega)]

theorem Leaves.not_faultAt {ts : List Token} {st : List Float} (h : Leaves ts st) (k : Nat)
    (f : Fault) : ¬ FaultAt ts k f := by
  intro hf
  obtain ⟨t, ht, hf⟩ := hf
  obtain ⟨hk, rfl⟩ := List.getElem?_eq_some_iff.1 ht
  have hsplit : ts = ts.take k ++ ts[k] :: ts.drop (k + 1) := by simp
  have hok := evalFrom_eq_ok_iff.2 h
  rw [hsplit, evalFrom_append, bind_eq_ok_iff] at hok
  obtain ⟨st', hbefore, hrest⟩ := hok
  have hstep := (evalStep_eq_error_iff (evalFrom_eq_ok_iff.1 hbefore)).2 hf
  rw [evalFrom, List.foldlM_cons, hstep] at hrest
  cases hrest

theorem exists_faultAt_of_evalFrom {ts : List Token} {f : Fault}
    (h : evalFrom [] ts = .error f) :
    ∃ k < ts.length, FaultAt ts k f ∧ ∀ j < k, ∀ g, ¬ FaultAt ts j g := by
  obtain ⟨before, t, after, st, rfl, hbefore, hstep⟩ := foldlM_eq_error_iff.1 h
  have hl : Leaves before st := evalFrom_eq_ok_iff.1 hbefore
  refine ⟨before.length, by simp, faultAt_append.2 ((evalStep_eq_error_iff hl).1 hstep), ?_⟩
  intro j hj g hg
  rw [← faultAt_take hj, List.take_left] at hg
  exact hl.not_faultAt j g hg

/-- The calculation breaks off at the leftmost token with a fault. -/
theorem evalFrom_eq_error_iff {ts : List Token} {f : Fault} :
    evalFrom [] ts = .error f ↔
      ∃ k, FaultAt ts k f ∧ ∀ j < k, ∀ g, ¬ FaultAt ts j g := by
  constructor
  · intro h
    obtain ⟨k, -, hk⟩ := exists_faultAt_of_evalFrom h
    exact ⟨k, hk⟩
  · intro h
    obtain ⟨k, ⟨t, ht, hf⟩, hfirst⟩ := h
    obtain ⟨hk, rfl⟩ := List.getElem?_eq_some_iff.1 ht
    cases hbefore : evalFrom [] (ts.take k) with
    | error g =>
      obtain ⟨j, hj, hg, -⟩ := exists_faultAt_of_evalFrom hbefore
      rw [List.length_take] at hj
      have hjk : j < k := by omega
      exact absurd ((faultAt_take hjk).1 hg) (hfirst j hjk g)
    | ok st =>
      have hstep := (evalStep_eq_error_iff (evalFrom_eq_ok_iff.1 hbefore)).2 hf
      exact foldlM_eq_error_iff.2 ⟨ts.take k, ts[k], ts.drop (k + 1), st, by simp, hbefore, hstep⟩

/-- Where all tokens can be calculated, only the number of values left can be wrong. -/
theorem evalPostfix_eq_error_iff {ts : List Token} {f : Fault} :
    evalPostfix ts = .error f ↔
      evalFrom [] ts = .error f ∨
        ∃ st, evalFrom [] ts = .ok st ∧ st.length ≠ 1 ∧ f = .malformed := by
  rw [evalPostfix]
  cases evalFrom [] ts with
  | error g => simp
  | ok st =>
    rcases st with _ | ⟨y, _ | ⟨x, st⟩⟩
    · simp [eq_comm]
    · simp
    · simp [eq_comm]

end Postfix

-- the division by zero stands before the operator that lacks an operand
example : evalPostfix [.number "1" 1, .number "0" 0, .operator .div, .operator .add] =
    .error .divisionByZero := by decide +kernel

end DeskCalculator
