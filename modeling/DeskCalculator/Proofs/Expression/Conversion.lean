import DeskCalculator.Expression.Grammar
import DeskCalculator.Proofs.Outcome
import Mathlib.Data.List.Basic

namespace DeskCalculator

namespace Postfix

/-- The tokens released by some tokens, and the stack after them. -/
def run (st : Stack) : List Token → Except Fault (List Token × Stack)
  | [] => .ok ([], st)
  | t :: ts => do
    let (out, st) ← step st t
    let (rest, st) ← run st ts
    return (out ++ rest, st)

theorem run_append (st : Stack) (xs ys : List Token) :
    run st (xs ++ ys) =
      run st xs >>= fun r => (run r.2 ys).map fun q => (r.1 ++ q.1, q.2) := by
  induction xs generalizing st with
  | nil =>
    change run st ys = (run st ys).map _
    cases run st ys <;> rfl
  | cons t xs ih =>
    rw [List.cons_append, run, run]
    cases step st t with
    | error f => rfl
    | ok r =>
      change (run r.2 (xs ++ ys) >>= _) = (run r.2 xs >>= _) >>= _
      rw [ih]
      cases run r.2 xs with
      | error f => rfl
      | ok q =>
        change (run q.2 ys).map _ >>= _ = (run q.2 ys).map _
        cases run q.2 ys with
        | error f => rfl
        | ok p => simp [Except.map, bind, Except.bind, pure, Except.pure]

theorem run_append_of_ok {st st' st'' : Stack} {xs ys out out' : List Token}
    (hx : run st xs = .ok (out, st')) (hy : run st' ys = .ok (out', st'')) :
    run st (xs ++ ys) = .ok (out ++ out', st'') := by
  rw [run_append, hx]
  change (run st' ys).map _ = _
  rw [hy]
  rfl

theorem run_append_eq_ok_iff {st st'' : Stack} {xs ys out : List Token} :
    run st (xs ++ ys) = .ok (out, st'') ↔
      ∃ out₁ st' out₂, run st xs = .ok (out₁, st') ∧ run st' ys = .ok (out₂, st'') ∧
        out₁ ++ out₂ = out := by
  rw [run_append, bind_eq_ok_iff]
  constructor
  · intro h
    obtain ⟨⟨out₁, st'⟩, hx, h⟩ := h
    obtain ⟨⟨out₂, st₂⟩, hy, h⟩ := map_eq_ok_iff.1 h
    cases h
    exact ⟨out₁, st', out₂, hx, hy, rfl⟩
  · intro h
    obtain ⟨out₁, st', out₂, hx, hy, rfl⟩ := h
    exact ⟨(out₁, st'), hx, map_eq_ok_iff.2 ⟨(out₂, st''), hy, rfl⟩⟩

theorem run_singleton (st : Stack) (t : Token) : run st [t] = step st t := by
  rw [run]
  cases step st t <;> simp [run, bind, Except.bind, pure, Except.pure]

theorem run_cons_eq_ok_iff {st st'' : Stack} {t : Token} {ts out : List Token} :
    run st (t :: ts) = .ok (out, st'') ↔
      ∃ out₁ st' out₂, step st t = .ok (out₁, st') ∧ run st' ts = .ok (out₂, st'') ∧
        out₁ ++ out₂ = out := by
  rw [← List.singleton_append, run_append_eq_ok_iff]
  simp only [run_singleton]

theorem run_of_step {st st' : Stack} {t : Token} {out : List Token}
    (h : step st t = .ok (out, st')) : run st [t] = .ok (out, st') := (run_singleton st t).trans h

theorem convert_eq_run (st : Stack) (ts : List Token) :
    convert st ts = run st ts >>= fun r => (drain r.2).map (r.1 ++ ·) := by
  induction ts generalizing st with
  | nil =>
    change drain st = (drain st).map _
    cases drain st <;> rfl
  | cons t ts ih =>
    rw [convert, run]
    cases step st t with
    | error f => rfl
    | ok r =>
      change (convert r.2 ts >>= _) = (run r.2 ts >>= _) >>= _
      rw [ih]
      cases run r.2 ts with
      | error f => rfl
      | ok q =>
        change (drain q.2).map _ >>= _ = (drain q.2).map _
        cases drain q.2 with
        | error f => rfl
        | ok p => simp [Except.map, bind, Except.bind, pure, Except.pure]

theorem popWhile_operators {p : Operator → Bool} {ops : List Operator}
    (h : ∀ op ∈ ops, p op = true) (st : Stack) :
    popWhile p (ops.map .operator ++ st) = (ops ++ (popWhile p st).1, (popWhile p st).2) := by
  induction ops with
  | nil => rfl
  | cons op ops ih =>
    have hop : p op = true := h op (by simp)
    have hops := ih fun o ho => h o (List.mem_cons_of_mem _ ho)
    rw [List.map_cons, List.cons_append, popWhile, if_pos hop, hops]
    rfl

theorem drain_append (ops : List Operator) (st : Stack) :
    drain (ops.map .operator ++ st) = (drain st).map (ops.map .operator ++ ·) := by
  induction ops with
  | nil =>
    change drain st = (drain st).map _
    cases drain st <;> rfl
  | cons op ops ih =>
    rw [List.map_cons, List.cons_append, drain, ih]
    cases drain st <;> rfl

theorem drain_operators (ops : List Operator) :
    drain (ops.map .operator) = .ok (ops.map .operator) := by
  have h := drain_append ops []
  rw [List.append_nil] at h
  rw [h]
  simp [drain, Except.map]

/-- How many parentheses are open on a stack. -/
def depth (st : Stack) : Nat := st.count .paren

theorem depth_operator (op : Operator) (st : Stack) : depth (.operator op :: st) = depth st := by
  simp [depth]

theorem depth_paren (st : Stack) : depth (.paren :: st) = depth st + 1 := by
  simp [depth]

theorem depth_popWhile (p : Operator → Bool) (st : Stack) :
    depth (popWhile p st).2 = depth st := by
  fun_induction popWhile p st <;> simp_all [depth]

theorem closes_of_drain {st : Stack} {out : List Token} (h : drain st = .ok out) :
    depth st = 0 := by
  induction st generalizing out with
  | nil => rfl
  | cons p st ih =>
    cases p with
    | paren => cases h
    | operator op =>
      obtain ⟨rest, hr, -⟩ := map_eq_ok_iff.1 h
      rw [depth_operator]
      exact ih hr

/-- The stack follows the parentheses: what is left to close is the same after each token. -/
theorem closes_cons_of_step {st st' : Stack} {t : Token} {out : List Token}
    (h : step st t = .ok (out, st')) (ts : List Token) :
    closes (depth st) (t :: ts) = closes (depth st') ts := by
  cases t with
  | number text value =>
    cases h
    cases depth st <;> rfl
  | operator op =>
    cases h
    rw [← depth_popWhile (fun o => decide (op.precedence ≤ o.precedence)) st, depth_operator]
    cases depth _ <;> rfl
  | lparen =>
    cases h
    rw [depth_paren]
    cases depth st <;> rfl
  | rparen =>
    rw [step] at h
    split at h
    next ops rest hp =>
      cases h
      rw [← depth_popWhile (fun _ => true) st, hp, depth_paren]
      rfl
    next => cases h

theorem closes_of_convert {st : Stack} {ts out : List Token} (h : convert st ts = .ok out) :
    closes (depth st) ts = true := by
  induction ts generalizing st out with
  | nil =>
    rw [closes_of_drain h]
    rfl
  | cons t ts ih =>
    obtain ⟨⟨emitted, st'⟩, hs, hr⟩ := bind_eq_ok_iff.1 h
    obtain ⟨rest, hc, -⟩ := bind_eq_ok_iff.1 hr
    rw [closes_cons_of_step hs]
    exact ih hc

end Postfix

end DeskCalculator
