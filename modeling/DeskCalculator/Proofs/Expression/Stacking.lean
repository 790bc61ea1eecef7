import DeskCalculator.Proofs.Expression.Reordering
import Mathlib.Algebra.Group.Action.Defs
import Mathlib.Algebra.Order.BigOperators.Group.List
import Mathlib.Algebra.Order.Ring.Nat

/-!
What waits on the converter's stack. Between two open parentheses the operators bind more tightly
from below to above, in whatever order tokens come (`Rising`). So no more than two of them wait in
one segment of the stack, and its height is bounded by the number of open parentheses
(`toPostfix_stack_rising`). The type of the stack admits nothing but operators and open
parentheses. So the converter is put beside a loop whose stack could hold any tokens (`Yard`).
-/

namespace DeskCalculator

namespace Postfix

/-- The token that a pending item stands for. -/
def Pending.token : Pending → Token
  | .operator op => .operator op
  | .paren => .lparen

/-- The pending items as tokens, the latest first. -/
def Stack.tokens (st : Stack) : List Token := st.map Pending.token

/-- Each operator on the stack binds more tightly than the next one below it, except across an
open parenthesis. -/
inductive Rising : Stack → Prop where
  | nil : Rising []
  | paren {st : Stack} : Rising st → Rising (.paren :: st)
  | operator {op : Operator} {st : Stack} :
    Below op.precedence st → Rising st → Rising (.operator op :: st)

variable {st st' : Stack} {t : Token} {ts out : List Token}

theorem popWhile_popWhile (p : Operator → Bool) (st : Stack) :
    popWhile p (popWhile p st).2 = ([], (popWhile p st).2) := by
  fun_induction popWhile p st <;> simp_all [popWhile]

theorem Rising.popWhile (h : Rising st) (p : Operator → Bool) : Rising (popWhile p st).2 := by
  induction h with
  | nil => exact .nil
  | paren h _ => exact .paren h
  | @operator op st hb h ih =>
    rw [Postfix.popWhile]
    split_ifs
    · exact ih
    · exact .operator hb h

/-- A new operator comes to stand on operators that bind less tightly, for it releases all others
of its segment. -/
theorem Rising.step (h : Rising st) (hs : step st t = .ok (out, st')) : Rising st' := by
  cases t with
  | number text value =>
    cases hs
    exact h
  | operator op =>
    cases hs
    exact .operator (popWhile_popWhile _ st) (h.popWhile _)
  | lparen =>
    cases hs
    exact .paren h
  | rparen =>
    have hpop := h.popWhile fun _ => true
    rw [Postfix.step] at hs
    split at hs
    next ops rest hp =>
      cases hs
      rw [hp] at hpop
      cases hpop with
      | paren hrest => exact hrest
    next => cases hs

theorem Rising.run (h : Rising st) (hs : run st ts = .ok (out, st')) : Rising st' := by
  induction ts generalizing st out with
  | nil =>
    cases hs
    exact h
  | cons t ts ih =>
    obtain ⟨released, st₁, rest, ht, hts, -⟩ := run_cons_eq_ok_iff.1 hs
    exact ih (h.step ht) hts

/-- A token that opens a parenthesis leaves one more open, and one that closes it one less. -/
theorem depth_step (hs : step st t = .ok (out, st')) :
    depth st' + [t].count .rparen = depth st + [t].count .lparen := by
  cases t with
  | number text value =>
    cases hs
    simp
  | operator op =>
    cases hs
    rw [depth_operator, depth_popWhile]
    simp
  | lparen =>
    cases hs
    rw [depth_paren]
    simp
  | rparen =>
    rw [step] at hs
    split at hs
    next ops rest hp =>
      cases hs
      have hdepth := depth_popWhile (fun _ => true) st
      rw [hp, depth_paren] at hdepth
      simp [← hdepth]
    next => cases hs

theorem depth_run (hs : run st ts = .ok (out, st')) :
    depth st' + ts.count .rparen = depth st + ts.count .lparen := by
  induction ts generalizing st out with
  | nil =>
    cases hs
    simp
  | cons t ts ih =>
    obtain ⟨released, st₁, rest, ht, hts, -⟩ := run_cons_eq_ok_iff.1 hs
    have hfirst := depth_step ht
    have hrest := ih hts
    rw [← List.singleton_append, List.count_append, List.count_append]
    omega

theorem stackAfter_eq_run (st : Stack) (ts : List Token) :
    stackAfter st ts = (run st ts).map Prod.snd := by
  induction ts generalizing st with
  | nil => rfl
  | cons t ts ih =>
    rw [stackAfter, run]
    cases step st t with
    | error f => rfl
    | ok r =>
      change stackAfter r.2 ts = (run r.2 ts >>= _).map Prod.snd
      rw [ih]
      cases run r.2 ts <;> rfl

end Postfix

/-- Operators alone, the latest first, and each binds more tightly than all below it. -/
def Descending (segment : List Token) : Prop :=
  ∃ ops : List Operator, segment = ops.map .operator ∧
    ops.Pairwise fun upper lower => lower.precedence < upper.precedence

theorem Descending.length_le {segment : List Token} (h : Descending segment) :
    segment.length ≤ 2 := by
  obtain ⟨ops, rfl, hops⟩ := h
  rw [List.length_map]
  rcases ops with _ | ⟨a, _ | ⟨b, _ | ⟨c, ops⟩⟩⟩
  · simp
  · simp
  · simp
  · -- there are two levels of precedence only
    have hab : b.precedence < a.precedence := (List.pairwise_cons.1 hops).1 b (by simp)
    have hrest := (List.pairwise_cons.1 hops).2
    have hbc : c.precedence < b.precedence := (List.pairwise_cons.1 hrest).1 c (by simp)
    have ha := a.precedence_cases
    have hc := c.precedence_cases
    omega

open Postfix in
/-- The topmost segment of a rising stack, and the ones below it. -/
theorem Postfix.Rising.exists_segments {st : Stack} (h : Rising st) :
    ∃ (ops : List Operator) (segments : List (List Token)),
      st.tokens.splitOn .lparen = ops.map .operator :: segments ∧
      (ops.Pairwise fun upper lower => lower.precedence < upper.precedence) ∧
      (∀ bound, Below bound st → ∀ op ∈ ops, op.precedence < bound) ∧
      ∀ segment ∈ segments, Descending segment := by
  induction h with
  | nil => exact ⟨[], [], rfl, .nil, by simp, by simp⟩
  | @paren st _ ih =>
    obtain ⟨ops, segments, hsplit, hops, -, hsegments⟩ := ih
    refine ⟨[], st.tokens.splitOn .lparen, ?_, .nil, by simp, ?_⟩
    · change (Token.lparen :: st.tokens).splitOn .lparen = _
      rw [List.splitOn_cons_eq_if_modifyHead, if_pos (by simp)]
      rfl
    · rw [hsplit]
      exact List.forall_mem_cons.2 ⟨⟨ops, rfl, hops⟩, hsegments⟩
  | @operator op st hb _ ih =>
    obtain ⟨ops, segments, hsplit, hops, hbelow, hsegments⟩ := ih
    refine ⟨op :: ops, segments, ?_, List.pairwise_cons.2 ⟨hbelow _ hb, hops⟩, ?_, hsegments⟩
    · change (Token.operator op :: st.tokens).splitOn .lparen = _
      rw [List.splitOn_cons_eq_if_modifyHead, if_neg (by simp), hsplit]
      rfl
    · intro bound hbound o ho
      have hop : op.precedence < bound := below_operator_iff.1 hbound
      rcases List.mem_cons.1 ho with rfl | ho
      · exact hop
      · exact (hbelow _ hb o ho).trans hop

theorem Postfix.Rising.descending {st : Postfix.Stack} (h : Postfix.Rising st) :
    ∀ segment ∈ st.tokens.splitOn .lparen, Descending segment := by
  obtain ⟨ops, segments, hsplit, hops, -, hsegments⟩ := h.exists_segments
  rw [hsplit]
  exact List.forall_mem_cons.2 ⟨⟨ops, rfl, hops⟩, hsegments⟩

section Segments

variable {α : Type} [BEq α] (sep : α) (xs : List α)

theorem length_splitOn : (xs.splitOn sep).length = xs.count sep + 1 := by
  induction xs with
  | nil => rfl
  | cons x xs ih =>
    rw [List.splitOn_cons_eq_if_modifyHead, List.count_cons]
    split_ifs
    · rw [List.length_cons, ih]
    · rw [List.length_modifyHead, ih]

theorem sum_length_splitOn :
    ((xs.splitOn sep).map List.length).sum + xs.count sep = xs.length := by
  induction xs with
  | nil => rfl
  | cons x xs ih =>
    rw [List.splitOn_cons_eq_if_modifyHead, List.count_cons, List.length_cons]
    split_ifs
    · simp only [List.map_cons, List.length_nil, List.sum_cons]
      omega
    · obtain ⟨segment, segments, hs⟩ := List.exists_cons_of_ne_nil (List.splitOn_ne_nil sep xs)
      rw [hs] at ih ⊢
      simp only [List.modifyHead_cons, List.map_cons, List.length_cons, List.sum_cons] at ih ⊢
      omega

variable {sep xs}

/-- Short segments make a short list. -/
theorem length_le_of_splitOn {k : Nat} (h : ∀ segment ∈ xs.splitOn sep, segment.length ≤ k) :
    xs.length ≤ xs.count sep + k * (xs.count sep + 1) := by
  have hle : ∀ n ∈ (xs.splitOn sep).map List.length, n ≤ k := by
    intro n hn
    obtain ⟨segment, hmem, rfl⟩ := List.mem_map.1 hn
    exact h segment hmem
  have hsum := List.sum_le_card_nsmul _ k hle
  rw [List.length_map, length_splitOn, smul_eq_mul, Nat.mul_comm] at hsum
  have htotal := sum_length_splitOn sep xs
  omega

end Segments

/-- A shunting yard at work: the tokens that have left it, and those that wait on its stack, the
latest first. These may be any tokens. -/
structure Yard where
  output : List Token
  stack : List Token

namespace Yard

def start : Yard := ⟨[], []⟩

/-- A waiting operator leaves before another one comes that binds no more tightly. -/
def givesWay (op : Operator) : Token → Bool
  | .operator o => decide (op.precedence ≤ o.precedence)
  | _ => false

/-- The tokens on top of the stack that satisfy `p` leave one after the other. -/
def release (p : Token → Bool) (y : Yard) : Yard :=
  ⟨y.output ++ y.stack.takeWhile p, y.stack.dropWhile p⟩

def next (y : Yard) : Token → Except Fault Yard
  | .number text value => .ok { y with output := y.output ++ [.number text value] }
  | .operator op =>
    let y := y.release (givesWay op)
    .ok { y with stack := .operator op :: y.stack }
  | .lparen => .ok { y with stack := .lparen :: y.stack }
  | .rparen =>
    let y := y.release (· != .lparen)
    match y.stack with
    | [] => .error .unbalanced
    | _ :: rest => .ok { y with stack := rest }

/-- At the end all that waits leaves, unless something else than an operator does. -/
def finish (y : Yard) : Except Fault (List Token) :=
  if y.stack.all Token.isOperator then .ok (y.output ++ y.stack) else .error .unbalanced

open Postfix

/-- A test of tokens that amounts to a test of pending operators takes the same ones off. -/
theorem span_tokens {p : Operator → Bool} {q : Token → Bool} (hop : ∀ op, q (.operator op) = p op)
    (hparen : q .lparen = false) (st : Stack) :
    st.tokens.takeWhile q = (popWhile p st).1.map .operator ∧
      st.tokens.dropWhile q = (popWhile p st).2.tokens := by
  induction st with
  | nil => exact ⟨rfl, rfl⟩
  | cons item st ih =>
    cases item with
    | paren =>
      change (Token.lparen :: Stack.tokens st).takeWhile q = [] ∧
        (Token.lparen :: Stack.tokens st).dropWhile q = .lparen :: Stack.tokens st
      simp [hparen]
    | operator op =>
      change (Token.operator op :: Stack.tokens st).takeWhile q = _ ∧
        (Token.operator op :: Stack.tokens st).dropWhile q = _
      rw [List.takeWhile_cons, List.dropWhile_cons, hop, popWhile]
      split_ifs
      · exact ⟨congrArg (Token.operator op :: ·) ih.1, ih.2⟩
      · exact ⟨rfl, rfl⟩

theorem drain_eq (st : Stack) :
    drain st = if st.tokens.all Token.isOperator then .ok st.tokens else .error .unbalanced := by
  induction st with
  | nil => rfl
  | cons item st ih =>
    cases item with
    | paren => rfl
    | operator op =>
      change (drain st).map _ = if (Stack.tokens st).all Token.isOperator then
        .ok (.operator op :: Stack.tokens st) else .error .unbalanced
      rw [ih]
      split_ifs <;> rfl

theorem next_tokens (out : List Token) (st : Stack) (t : Token) :
    next ⟨out, st.tokens⟩ t = (step st t).map fun r => ⟨out ++ r.1, r.2.tokens⟩ := by
  cases t with
  | number text value => rfl
  | operator op =>
    obtain ⟨htake, hdrop⟩ := span_tokens (q := givesWay op)
      (p := fun o => decide (op.precedence ≤ o.precedence)) (fun _ => rfl) rfl st
    rw [next, release, htake, hdrop]
    rfl
  | lparen =>
    rw [step, Except.map, List.append_nil]
    rfl
  | rparen =>
    obtain ⟨htake, hdrop⟩ := span_tokens (q := (· != .lparen)) (p := fun _ => true)
      (fun _ => rfl) rfl st
    have hstop := popWhile_popWhile (fun _ => true) st
    rw [next, release, htake, hdrop, step]
    -- an open parenthesis or nothing is what the run of operators ends at
    rcases hpop : popWhile (fun _ => true) st with ⟨ops, _ | ⟨op | _, rest⟩⟩
    · rfl
    · rw [hpop] at hstop
      simp [popWhile] at hstop
    · rfl

theorem foldlM_next_tokens (out : List Token) (st : Stack) (ts : List Token) :
    ts.foldlM next ⟨out, st.tokens⟩ =
      (run st ts).map fun r => ⟨out ++ r.1, r.2.tokens⟩ := by
  induction ts generalizing out st with
  | nil =>
    rw [run, Except.map, List.append_nil]
    rfl
  | cons t ts ih =>
    rw [List.foldlM_cons, next_tokens, run]
    cases step st t with
    | error f => rfl
    | ok r =>
      change ts.foldlM next ⟨out ++ r.1, Stack.tokens r.2⟩ = _
      rw [ih]
      change _ = (run r.2 ts >>= _).map _
      cases run r.2 ts with
      | error f => rfl
      | ok q =>
        rw [Except.map, List.append_assoc]
        rfl

theorem finish_tokens (out : List Token) (st : Stack) :
    finish ⟨out, st.tokens⟩ = (drain st).map (out ++ ·) := by
  rw [finish, drain_eq]
  split_ifs <;> rfl

theorem toPostfix_eq_foldlM (ts : List Token) : toPostfix ts = ts.foldlM next start >>= finish := by
  change convert [] ts = ts.foldlM next ⟨[], Stack.tokens []⟩ >>= finish
  rw [foldlM_next_tokens, convert_eq_run]
  cases run [] ts with
  | error f => rfl
  | ok r => exact (finish_tokens r.1 r.2).symm

theorem foldlM_next_start_eq_ok_iff {ts : List Token} {y : Yard} :
    ts.foldlM next start = .ok y ↔ ∃ st, run [] ts = .ok (y.output, st) ∧ y.stack = st.tokens := by
  change ts.foldlM next ⟨[], Stack.tokens []⟩ = .ok y ↔ _
  rw [foldlM_next_tokens, map_eq_ok_iff]
  constructor
  · intro h
    obtain ⟨r, hr, rfl⟩ := h
    exact ⟨r.2, hr, rfl⟩
  · intro h
    obtain ⟨st, hr, hst⟩ := h
    exact ⟨(y.output, st), hr, congrArg (Yard.mk y.output) hst.symm⟩

theorem map_stack_foldlM (ts : List Token) :
    (ts.foldlM next start).map stack = (stackAfter [] ts).map Stack.tokens := by
  change (ts.foldlM next ⟨[], Stack.tokens []⟩).map stack = _
  rw [foldlM_next_tokens, stackAfter_eq_run]
  cases run [] ts <;> rfl

end Yard

open Postfix in
theorem Postfix.count_lparen_tokens (st : Postfix.Stack) :
    st.tokens.count .lparen = Postfix.depth st := by
  induction st with
  | nil => rfl
  | cons item st ih =>
    change (item.token :: Stack.tokens st).count .lparen = _
    rw [List.count_cons, ih]
    cases item with
    | operator op => simp [Pending.token, depth_operator]
    | paren => simp [Pending.token, depth_paren]

/-- The converter's stack. A loop whose stack may hold any tokens does what the converter does and
keeps the same stack. After any tokens on which it has not failed, the stack holds operators and
opening parentheses only, and as many of these as are open. From one of them to the next the
operators bind more tightly towards the top, so there are at most two of them, and the height of
the stack is bounded by the number of parentheses that are open. -/
theorem toPostfix_stack_rising (ts : List Token) :
    toPostfix ts = ts.foldlM Yard.next .start >>= Yard.finish ∧
    (ts.foldlM Yard.next .start).map Yard.stack =
      (Postfix.stackAfter [] ts).map Postfix.Stack.tokens ∧
    ∀ y, ts.foldlM Yard.next .start = .ok y →
      (∀ t ∈ y.stack, t.isOperator = true ∨ t = .lparen) ∧
      y.stack.count .lparen + ts.count .rparen = ts.count .lparen ∧
      (∀ segment ∈ y.stack.splitOn .lparen, Descending segment ∧ segment.length ≤ 2) ∧
      y.stack.length ≤ y.stack.count .lparen + 2 * (y.stack.count .lparen + 1) := by
  refine ⟨Yard.toPostfix_eq_foldlM ts, Yard.map_stack_foldlM ts, ?_⟩
  intro y hy
  obtain ⟨st, hrun, hst⟩ := Yard.foldlM_next_start_eq_ok_iff.1 hy
  have hrising : Postfix.Rising st := Postfix.Rising.nil.run hrun
  have hdepth := Postfix.depth_run hrun
  have hsegments : ∀ segment ∈ y.stack.splitOn .lparen,
      Descending segment ∧ segment.length ≤ 2 := by
    intro segment hs
    rw [hst] at hs
    have hdescending := hrising.descending segment hs
    exact ⟨hdescending, hdescending.length_le⟩
  refine ⟨?_, ?_, hsegments, length_le_of_splitOn fun segment hs => (hsegments segment hs).2⟩
  · rw [hst]
    intro t ht
    obtain ⟨item, -, rfl⟩ := List.mem_map.1 ht
    cases item with
    | operator op => exact .inl rfl
    | paren => exact .inr rfl
  · rw [hst, Postfix.count_lparen_tokens, hdepth]
    simp [Postfix.depth]

/-- The bound on the height is attained: five items wait where one parenthesis is open. -/
theorem toPostfix_stack_rising_full :
    let ts : List Token := [.number "1" 1, .operator .add, .number "2" 2, .operator .mul, .lparen,
      .number "3" 3, .operator .sub, .number "4" 4, .operator .div]
    let y : Yard := ⟨[.number "1" 1, .number "2" 2, .number "3" 3, .number "4" 4],
      [.operator .div, .operator .sub, .lparen, .operator .mul, .operator .add]⟩
    ts.foldlM Yard.next .start = .ok y ∧
      (∀ segment ∈ y.stack.splitOn .lparen, Descending segment ∧ segment.length ≤ 2) ∧
      y.stack.length = y.stack.count .lparen + 2 * (y.stack.count .lparen + 1) := by
  intro ts y
  have hy : ts.foldlM Yard.next .start = .ok y := rfl
  exact ⟨hy, ((toPostfix_stack_rising ts).2.2 y hy).2.2.1, by decide⟩

end DeskCalculator
