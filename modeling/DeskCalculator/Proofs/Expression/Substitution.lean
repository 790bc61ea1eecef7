import DeskCalculator.Proofs.Expression.Reordering
import DeskCalculator.Proofs.Expression.Valuation

namespace DeskCalculator

namespace Postfix

theorem convert_append (st : Stack) (xs ys : List Token) :
    convert st (xs ++ ys) =
      run st xs >>= fun r => (convert r.2 ys).map (r.1 ++ ·) := by
  rw [convert_eq_run, run_append]
  cases run st xs with
  | error f => rfl
  | ok r =>
    change (run r.2 ys).map _ >>= _ = (convert r.2 ys).map _
    rw [convert_eq_run]
    cases run r.2 ys with
    | error f => rfl
    | ok q =>
      change (drain q.2).map _ = ((drain q.2).map _).map _
      cases drain q.2 with
      | error f => rfl
      | ok p => simp [Except.map]

theorem convert_append_of_ok {st st' : Stack} {xs out : List Token}
    (h : run st xs = .ok (out, st')) (ys : List Token) :
    convert st (xs ++ ys) = (convert st' ys).map (out ++ ·) := by
  rw [convert_append, h]
  rfl

/-- A row of operands neither looks at the stack below it nor leaves anything on it. -/
theorem run_row {ts out : List Token} (h : Reorders .factor ts out) (st : Stack) :
    run st ts = .ok (out, st) := by
  obtain ⟨released, pending, rfl, hp, hrun⟩ := h.run_eq (below_factor st)
  obtain rfl := no_pending hp
  simpa using hrun

theorem run_parenthesized {ts out : List Token} (h : toPostfix ts = .ok out) (st : Stack) :
    run st (.lparen :: ts ++ [.rparen]) = .ok (out, st) := by
  have hrow : Reorders .factor (.lparen :: ts ++ [.rparen]) out :=
    .paren .empty (toPostfix_eq_ok_iff.1 h)
  exact run_row hrow st

theorem run_number (text : String) (value : Float) (st : Stack) :
    run st [.number text value] = .ok ([.number text value], st) := run_of_step rfl

/-- Postfix tokens with a value put it on top of whatever is on the stack. -/
theorem evalFrom_of_evalPostfix {ts : List Token} {value : Float} (h : evalPostfix ts = .ok value)
    (st : List Float) : evalFrom st ts = .ok (value :: st) := by
  obtain ⟨t, rfl, ht⟩ := evalPostfix_eq_ok_iff.1 h
  rw [t.evalFrom_postorder, ht]
  rfl

/-- What does the same on every stack of values may stand in place of each other. -/
theorem evalPostfix_congr {ts ts' : List Token} (h : ∀ st, evalFrom st ts = evalFrom st ts')
    (xs ys : List Token) : evalPostfix (xs ++ (ts ++ ys)) = evalPostfix (xs ++ (ts' ++ ys)) := by
  have hrest : ∀ st, evalFrom st (ts ++ ys) = evalFrom st (ts' ++ ys) := by
    intro st
    rw [evalFrom_append, evalFrom_append, h]
  have hall : evalFrom [] (xs ++ (ts ++ ys)) = evalFrom [] (xs ++ (ts' ++ ys)) := by
    rw [evalFrom_append, evalFrom_append]
    cases evalFrom [] xs with
    | error f => rfl
    | ok st => exact hrest st
  rw [evalPostfix, evalPostfix, hall]

/-- Two rows of tokens that both leave the converter's stack as it was, and whose postfix forms do
the same to every stack of values, have the same outcome between any others. -/
theorem toPostfix_bind_congr {ts ts' out out' : List Token}
    (hts : ∀ st, run st ts = .ok (out, st)) (hts' : ∀ st, run st ts' = .ok (out', st))
    (h : ∀ st, evalFrom st out = evalFrom st out') (xs ys : List Token) :
    (toPostfix (xs ++ (ts ++ ys)) >>= evalPostfix) =
      (toPostfix (xs ++ (ts' ++ ys)) >>= evalPostfix) := by
  rw [toPostfix, toPostfix, convert_append, convert_append]
  cases run [] xs with
  | error f => rfl
  | ok r =>
    obtain ⟨before, st⟩ := r
    change ((convert st (ts ++ ys)).map (before ++ ·) >>= evalPostfix) =
      ((convert st (ts' ++ ys)).map (before ++ ·) >>= evalPostfix)
    rw [convert_append, convert_append, hts, hts']
    change (((convert st ys).map (out ++ ·)).map (before ++ ·) >>= evalPostfix) =
      (((convert st ys).map (out' ++ ·)).map (before ++ ·) >>= evalPostfix)
    cases convert st ys with
    | error f => rfl
    | ok after => exact evalPostfix_congr h before after

end Postfix

/-- A parenthesised phrase with a value and a number of that value have the same outcome between
any other tokens, well formed or not. -/
theorem evaluate_parenthesized {ts : List Token} {value : Float}
    (h : (toPostfix ts >>= evalPostfix) = .ok value) (xs ys : List Token) (text : String) :
    (toPostfix (xs ++ [.number text value] ++ ys) >>= evalPostfix) =
      (toPostfix (xs ++ [.lparen] ++ ts ++ [.rparen] ++ ys) >>= evalPostfix) := by
  obtain ⟨out, hout, hvalue⟩ := bind_eq_ok_iff.1 h
  have heval : ∀ st, Postfix.evalFrom st [.number text value] = Postfix.evalFrom st out := by
    intro st
    rw [Postfix.evalFrom_of_evalPostfix hvalue]
    rfl
  have hsame := Postfix.toPostfix_bind_congr (Postfix.run_number text value)
    (Postfix.run_parenthesized hout) heval xs ys
  simpa using hsame

/-- Even a phrase that is no sentence may be replaced by its value. -/
theorem evaluate_parenthesized_row :
    (toPostfix [.number "2" 2, .lparen, .number "3" 3, .rparen, .operator .add] >>=
        evalPostfix) = .ok 5 ∧
      (toPostfix [.number "9" 9, .operator .sub, .lparen, .number "2" 2, .lparen, .number "3" 3,
        .rparen, .operator .add, .rparen, .operator .mul, .number "0" 0] >>= evalPostfix) =
      (toPostfix [.number "9" 9, .operator .sub, .number "5" 5, .operator .mul, .number "0" 0] >>=
        evalPostfix) := by
  have h : (toPostfix [.number "2" 2, .lparen, .number "3" 3, .rparen, .operator .add] >>=
      evalPostfix) = .ok 5 := by decide +kernel
  exact ⟨h, (evaluate_parenthesized h [.number "9" 9, .operator .sub]
    [.operator .mul, .number "0" 0] "5").symm⟩

end DeskCalculator
