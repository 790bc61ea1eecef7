import DeskCalculator.Proofs.Expression.Nesting
import DeskCalculator.Proofs.Expression.Substitution

/-!
Which parentheses matter. Taking a pair of parentheses away keeps the postfix order exactly where
the operator on the left binds less tightly than every operator that comes into the open, and the
operator on the right does not bind more tightly than any of them (`toPostfix_unwrapped_iff`). On
the left, an operator that binds as tightly would be released too early; on the right it would
not, and so all four operators are left associative.
-/

namespace DeskCalculator

/-- How loosely the loosest of some operators binds. -/
def lowest? (ops : List Operator) : Option Nat := (ops.map Operator.precedence).min?

theorem lowest?_eq_some_iff {ops : List Operator} {m : Nat} :
    lowest? ops = some m ↔
      (∃ op ∈ ops, op.precedence = m) ∧ ∀ op ∈ ops, m ≤ op.precedence := by
  simp [lowest?, List.min?_eq_some_iff]

theorem exists_lowest? {ops : List Operator} (h : ops ≠ []) : ∃ m, lowest? ops = some m := by
  rw [← Option.isSome_iff_exists, lowest?, List.isSome_min?_iff]
  simpa using h

/-- After a common front, the one list goes on with a number and the other with an operator. -/
def Forks (xs ys : List Token) : Prop :=
  ∃ front text value op xs' ys',
    xs = front ++ .number text value :: xs' ∧ ys = front ++ .operator op :: ys'

namespace Forks

theorem ne {xs ys : List Token} (h : Forks xs ys) : xs ≠ ys := by
  obtain ⟨front, text, value, op, xs', ys', rfl, rfl⟩ := h
  intro he
  cases (List.cons.inj (List.append_cancel_left he)).1

theorem append {xs ys : List Token} (h : Forks xs ys) (xs' ys' : List Token) :
    Forks (xs ++ xs') (ys ++ ys') := by
  obtain ⟨front, text, value, op, xs₁, ys₁, rfl, rfl⟩ := h
  exact ⟨front, text, value, op, xs₁ ++ xs', ys₁ ++ ys', by simp, by simp⟩

end Forks

theorem Tree.exists_postorder_eq_cons (t : Tree) :
    ∃ text value rest, t.postorder = .number text value :: rest := by
  induction t with
  | leaf text value => exact ⟨text, value, [], rfl⟩
  | node op l r ihl _ =>
    obtain ⟨text, value, rest, hl⟩ := ihl
    exact ⟨text, value, rest ++ r.postorder ++ [.operator op], by simp [postorder, hl]⟩

namespace Postfix

/-- Where an operand is due, a number is the first token to be released. -/
theorem exists_number_of_convert {st : Stack} {ts out : List Token}
    (ha : Alternates false ts true) (h : convert st ts = .ok out) :
    ∃ text value rest, out = .number text value :: rest := by
  induction ts generalizing st out with
  | nil => cases ha
  | cons t ts ih =>
    obtain ⟨hstart, hrest⟩ := ha
    obtain ⟨⟨released, st'⟩, hs, h⟩ := bind_eq_ok_iff.1 h
    obtain ⟨rest, hc, h⟩ := bind_eq_ok_iff.1 h
    cases h
    cases t with
    | number text value =>
      cases hs
      exact ⟨text, value, rest, rfl⟩
    | lparen =>
      cases hs
      exact ih hrest hc
    | operator op => cases hstart
    | rparen => cases hstart

/-- The token releases pending operators: it is a closing parenthesis, or an operator that does not
bind more tightly than any of them. -/
def Releases (t : Token) (pending : List Operator) : Prop :=
  t = .rparen ∨ ∃ op, t = .operator op ∧ ∀ o ∈ pending, op.precedence ≤ o.precedence

/-- The pending operators on top of the stack are released before anything else. -/
theorem step_pending {pending : List Operator} {t : Token} (ht : Releases t pending)
    (st : Stack) :
    step (pending.map .operator ++ st) t =
      (step st t).map fun r => (pending.map .operator ++ r.1, r.2) := by
  obtain rfl | ⟨op, rfl, hop⟩ := ht
  · have hpop := popWhile_operators (p := fun _ => true) (fun o (_ : o ∈ pending) => rfl) st
    rw [step, step, hpop]
    obtain ⟨ops, rest⟩ := popWhile (fun _ => true) st
    rcases rest with _ | ⟨o | _, rest⟩
    · rfl
    · rfl
    · simp [Except.map]
  · have hpop := popWhile_operators (p := fun o => decide (op.precedence ≤ o.precedence))
      (fun o ho => by simpa using hop o ho) st
    rw [step, step, hpop]
    simp [Except.map]

theorem exists_rest_of_run {pending : List Operator} {t : Token} {ts out : List Token}
    {st st' : Stack} (ht : Releases t pending)
    (h : run (pending.map .operator ++ st) (t :: ts) = .ok (out, st')) :
    ∃ rest, out = pending.map .operator ++ rest := by
  obtain ⟨released, st₁, rest, hstep, -, h⟩ := run_cons_eq_ok_iff.1 h
  rw [step_pending ht] at hstep
  obtain ⟨⟨more, st₃⟩, -, hstep⟩ := map_eq_ok_iff.1 hstep
  cases h
  cases hstep
  exact ⟨more ++ rest, List.append_assoc ..⟩

/-- The end of the tokens releases them as well. -/
theorem convert_pending {pending : List Operator} {ts : List Token}
    (ht : ∀ t ∈ ts.head?, Releases t pending) (st : Stack) :
    convert (pending.map .operator ++ st) ts =
      (convert st ts).map (pending.map .operator ++ ·) := by
  cases ts with
  | nil => exact drain_append pending st
  | cons t ts =>
    rw [convert, convert, step_pending (ht t (by simp))]
    cases step st t with
    | error f => rfl
    | ok r =>
      change (convert r.2 ts >>= _) = (convert r.2 ts >>= _).map _
      cases convert r.2 ts <;> simp [bind, Except.bind, Except.map, pure, Except.pure]

theorem exists_top_of_run {xs out : List Token} {st : Stack} {op : Operator}
    (h : run [] xs = .ok (out, st)) (hlast : xs.getLast? = some (.operator op)) :
    ∃ st', st = .operator op :: st' := by
  obtain ⟨front, rfl⟩ := List.getLast?_eq_some_iff.1 hlast
  obtain ⟨-, st', out', -, hstep, -⟩ := run_append_eq_ok_iff.1 h
  rw [run_singleton] at hstep
  cases hstep
  exact ⟨_, rfl⟩

/-- Where an operand is due, the last token is what is on top of the stack. -/
theorem below_of_run {xs out : List Token} {st : Stack} {bound : Nat}
    (h : run [] xs = .ok (out, st)) (hend : ∀ a ∈ xs.getLast?, a.endsOperand = false)
    (hop : ∀ op, xs.getLast? = some (.operator op) → op.precedence < bound) : Below bound st := by
  cases hlast : xs.getLast? with
  | none =>
    rw [List.getLast?_eq_none_iff.1 hlast] at h
    cases h
    rfl
  | some a =>
    have ha := hend a hlast
    cases a with
    | number text value => cases ha
    | rparen => cases ha
    | operator op =>
      obtain ⟨st', rfl⟩ := exists_top_of_run h hlast
      exact below_operator (hop op hlast) st'
    | lparen =>
      obtain ⟨front, rfl⟩ := List.getLast?_eq_some_iff.1 hlast
      obtain ⟨-, st', out', -, hstep, -⟩ := run_append_eq_ok_iff.1 h
      rw [run_singleton] at hstep
      cases hstep
      exact below_paren bound st'

end Postfix

theorem Level.exists_floor_eq (op : Operator) : ∃ level : Level, level.floor = op.precedence + 1 := by
  obtain h | h := op.precedence_cases
  · exact ⟨.product, by rw [h]; rfl⟩
  · exact ⟨.factor, by rw [h]; rfl⟩

namespace Derives

open Postfix

/-- The first outer operator that binds no more tightly than the pending one releases it, where
the tree of the phrase goes on with a right operand. -/
theorem forks_at {xs ys out : List Token} {l r : Tree} {op o : Operator} {st st' : Stack}
    {level : Level} (hl : Derives level xs l)
    (hx : ∀ o ∈ outerOperators 0 xs, op.precedence < o.precedence)
    (ho : o.precedence ≤ op.precedence)
    (hrun : run (.operator op :: st) (xs ++ .operator o :: ys) = .ok (out, st')) :
    Forks (Tree.node o l r).postorder out := by
  obtain ⟨level', hfloor⟩ := Level.exists_floor_eq op
  have hl' : Derives level' xs l := by
    apply hl.raise
    rw [hfloor]
    exact hx
  have hbelow : Below level'.floor (.operator op :: st) := below_operator (by omega) st
  obtain ⟨released, pending, hout, hp, hrunx⟩ := hl'.reorders.run_eq hbelow
  obtain ⟨out₁, st₁, out₂, hx₁, hy, rfl⟩ := run_append_eq_ok_iff.1 hrun
  rw [hrunx] at hx₁
  cases hx₁
  -- the operator releases what the left operand has left pending, and the one before it next
  have hpending : ∀ p ∈ pending ++ [op], o.precedence ≤ p.precedence := by
    intro p hmem
    obtain hmem | hmem := List.mem_append.1 hmem
    · have hle := hp p hmem
      omega
    · rw [List.mem_singleton.1 hmem]
      exact ho
  rw [← List.singleton_append, ← List.append_assoc,
    show pending.map Pending.operator ++ [.operator op] = (pending ++ [op]).map .operator by simp]
    at hy
  obtain ⟨rest, rfl⟩ := exists_rest_of_run (.inr ⟨o, rfl, hpending⟩) hy
  obtain ⟨text, value, rest', hr⟩ := r.exists_postorder_eq_cons
  refine ⟨l.postorder, text, value, op, rest' ++ [.operator o], rest, ?_, ?_⟩
  · simp [Tree.postorder, hr]
  · simp [← hout]

theorem forks_of_operator {xs ys out : List Token} {l r : Tree} {op o : Operator}
    {st st' : Stack} {level : Level} (hl : Derives level xs l)
    (ihl : (∃ o ∈ outerOperators 0 xs, o.precedence ≤ op.precedence) →
      ∀ out st', run (.operator op :: st) xs = .ok (out, st') → Forks l.postorder out)
    (hys : ∀ o' ∈ outerOperators 0 ys, o.precedence ≤ o'.precedence)
    (hop : ∃ o' ∈ outerOperators 0 (xs ++ .operator o :: ys), o'.precedence ≤ op.precedence)
    (hrun : run (.operator op :: st) (xs ++ .operator o :: ys) = .ok (out, st')) :
    Forks (Tree.node o l r).postorder out := by
  by_cases hx : ∃ o ∈ outerOperators 0 xs, o.precedence ≤ op.precedence
  · obtain ⟨out₁, st₁, out₂, hx₁, -, rfl⟩ := run_append_eq_ok_iff.1 hrun
    rw [Tree.postorder, List.append_assoc]
    exact (ihl hx out₁ st₁ hx₁).append _ _
  · have hxlt : ∀ o ∈ outerOperators 0 xs, op.precedence < o.precedence := by
      intro o' ho'
      by_contra hle
      exact hx ⟨o', ho', by omega⟩
    have ho : o.precedence ≤ op.precedence := by
      by_contra hlt
      have hlt' : op.precedence < o.precedence := by omega
      have hall : ∀ o' ∈ outerOperators 0 (xs ++ .operator o :: ys),
          op.precedence < o'.precedence :=
        (forall_outerOperators_iff hl.closes).2
          ⟨hxlt, hlt', fun o' ho' => Nat.lt_of_lt_of_le hlt' (hys o' ho')⟩
      obtain ⟨o', ho', hle⟩ := hop
      have hgt := hall o' ho'
      omega
    exact hl.forks_at hxlt ho hrun

/-- Behind an operator that binds at least as tightly as one of its outer operators, a phrase
without parentheses around it is put in another order. -/
theorem forks_of_run {level : Level} {ts out : List Token} {t : Tree} (h : Derives level ts t)
    {op : Operator} (hop : ∃ o ∈ outerOperators 0 ts, o.precedence ≤ op.precedence)
    {st st' : Stack} (hrun : run (.operator op :: st) ts = .ok (out, st')) :
    Forks t.postorder out := by
  induction h generalizing out st' with
  | number text value => simp [outerOperators] at hop
  | paren h _ =>
    rw [outerOperators_paren h.closes] at hop
    simp at hop
  | factor _ ih => exact ih hop hrun
  | mul ho hl hr ihl _ =>
    refine forks_of_operator hl (fun hx out st' hrunx => ihl hx hrunx) ?_ hop hrun
    intro o' ho'
    exact Nat.le_trans (by rw [ho]; decide) (hr.floor_le o' ho')
  | product _ ih => exact ih hop hrun
  | add ho hl hr ihl _ =>
    refine forks_of_operator hl (fun hx out st' hrunx => ihl hx hrunx) ?_ hop hrun
    intro o' ho'
    exact Nat.le_trans (by rw [ho]; decide) (hr.floor_le o' ho')

/-- A sum leaves its last operator pending, below those of the product on its right. -/
theorem run_sum {ts : List Token} {t : Tree} (h : Derives .sum ts t)
    (hop : ∃ o ∈ outerOperators 0 ts, o.precedence = 1) {st : Stack} (hst : Below 1 st) :
    ∃ (released : List Token) (pending : List Operator) (o : Operator), o.precedence = 1 ∧
      (∀ p ∈ pending, Level.product.floor ≤ p.precedence) ∧
      t.postorder = released ++ pending.map .operator ++ [.operator o] ∧
      run st ts = .ok (released, pending.map .operator ++ .operator o :: st) := by
  cases h with
  | product h =>
    obtain ⟨o, ho, h1⟩ := hop
    have hle := h.floor_le o ho
    rw [h1] at hle
    cases Nat.not_succ_le_self 1 hle
  | @add xs ys l r o ho hl hr =>
    obtain ⟨released, pending, hx, hp, hrunx⟩ := hl.reorders.run_eq hst
    have hbelow : o.precedence < Level.product.floor := by rw [ho]; decide
    obtain ⟨released', pending', hy, hp', hruny⟩ := hr.reorders.run_eq (below_operator hbelow st)
    have hlow : Below o.precedence st := by
      rw [ho]
      exact hst
    have hstep := step_operator (fun p hmem => by rw [ho]; exact hp p hmem) hlow
    have hrun := run_append_of_ok hrunx (run_append_of_ok (run_of_step hstep) hruny)
    exact ⟨_, pending', o, ho, hp', by simp [Tree.postorder, ← hx, ← hy], hrun⟩

theorem run_of_no_operator {ts : List Token} {t : Tree} (h : Derives .sum ts t)
    (ho : outerOperators 0 ts = []) (st : Stack) : run st ts = .ok (t.postorder, st) := by
  have hrow : Derives .factor ts t := h.raise (by simp [ho])
  exact run_row hrow.reorders st

theorem exists_level {ts : List Token} {t : Tree} (h : Derives .sum ts t) {m : Nat}
    (hm : lowest? (outerOperators 0 ts) = some m) :
    ∃ level : Level, level.floor = m ∧ Derives level ts t := by
  obtain ⟨⟨op, -, rfl⟩, hle⟩ := lowest?_eq_some_iff.1 hm
  obtain h1 | h2 := op.precedence_cases
  · exact ⟨.sum, by rw [h1]; rfl, h⟩
  · refine ⟨.product, by rw [h2]; rfl, h.raise ?_⟩
    rw [h2] at hle
    exact hle

variable {ys zs out rest after : List Token} {u : Tree} {m : Nat} {st st' : Stack} {op : Operator}

/-- Between operators that leave a phrase together, its parentheses may be taken away. -/
theorem unwrapped_of_below (hu : Derives .sum ys u) (hm : lowest? (outerOperators 0 ys) = some m)
    (hst : Below m st)
    (hzs : ∀ t ∈ zs.head?, t = .rparen ∨ ∃ op, t = .operator op ∧ op.precedence ≤ m)
    (hafter : convert st zs = .ok after) :
    ∃ out st' rest, run st ys = .ok (out, st') ∧ convert st' zs = .ok rest ∧
      out ++ rest = u.postorder ++ after := by
  obtain ⟨level, rfl, hlevel⟩ := hu.exists_level hm
  obtain ⟨released, pending, hout, hp, hrun⟩ := hlevel.reorders.run_eq hst
  have hrelease : ∀ t ∈ zs.head?, Releases t pending := by
    intro t ht
    obtain h | ⟨op, h, hle⟩ := hzs t ht
    · exact .inl h
    · exact .inr ⟨op, h, fun o ho => Nat.le_trans hle (hp o ho)⟩
  have hrest := convert_pending hrelease st
  rw [hafter] at hrest
  exact ⟨released, _, _, hrun, hrest, by simp [← hout]⟩

theorem lt_of_unwrapped (hu : Derives .sum ys u) (hm : lowest? (outerOperators 0 ys) = some m)
    (hrun : run (.operator op :: st) ys = .ok (out, st'))
    (he : out ++ rest = u.postorder ++ after) : op.precedence < m := by
  by_contra hle
  obtain ⟨⟨o, ho, rfl⟩, -⟩ := lowest?_eq_some_iff.1 hm
  have hf := hu.forks_of_run ⟨o, ho, by omega⟩ hrun
  exact (hf.append after rest).ne he.symm

theorem le_of_unwrapped (hu : Derives .sum ys u) (hm : lowest? (outerOperators 0 ys) = some m)
    (hst : Below m st) (hzs : Alternates false zs true) (hrun : run st ys = .ok (out, st'))
    (hrest : convert st' (.operator op :: zs) = .ok rest)
    (he : out ++ rest = u.postorder ++ after) : op.precedence ≤ m := by
  by_contra hlt
  obtain ⟨⟨o, ho, rfl⟩, -⟩ := lowest?_eq_some_iff.1 hm
  -- a sum before a product: its last operator stays behind, and the right operand comes first
  have h1 : o.precedence = 1 := by
    rcases o.precedence_cases with h | h <;> rcases op.precedence_cases with h' | h' <;> omega
  have h2 : op.precedence = 2 := by
    rcases op.precedence_cases with h' | h' <;> omega
  rw [h1] at hst
  obtain ⟨released, pending, o', ho', hp, hpost, hrun'⟩ := hu.run_sum ⟨o, ho, h1⟩ hst
  rw [hrun] at hrun'
  cases hrun'
  have hbelow : Below op.precedence (.operator o' :: st) := below_operator (by omega) st
  have hstep := step_operator (fun p hmem => by rw [h2]; exact hp p hmem) hbelow
  obtain ⟨⟨released', st₁⟩, hs, hrest⟩ := bind_eq_ok_iff.1 hrest
  rw [hstep] at hs
  cases hs
  obtain ⟨rest', hc, hrest⟩ := bind_eq_ok_iff.1 hrest
  cases hrest
  obtain ⟨text, value, rest', rfl⟩ := exists_number_of_convert hzs hc
  have hf : Forks (out ++ (pending.map .operator ++ .number text value :: rest'))
      (u.postorder ++ after) :=
    ⟨out ++ pending.map .operator, text, value, o', rest', after, by simp, by simp [hpost]⟩
  exact hf.ne he

end Derives

namespace Postfix

/-- Between other tokens, a phrase in parentheses comes out as it does by itself. -/
theorem toPostfix_wrapped {ys body : List Token} (hy : toPostfix ys = .ok body)
    (xs zs : List Token) :
    toPostfix (xs ++ [.lparen] ++ ys ++ [.rparen] ++ zs) =
      run [] xs >>= fun r => (convert r.2 zs).map fun after => r.1 ++ (body ++ after) := by
  have hassoc : xs ++ [Token.lparen] ++ ys ++ [.rparen] ++ zs =
      xs ++ ((.lparen :: ys ++ [.rparen]) ++ zs) := by simp
  rw [hassoc, toPostfix, convert_append]
  refine bind_congr fun r => ?_
  rw [convert_append_of_ok (run_parenthesized hy r.2)]
  cases convert r.2 zs <;> rfl

theorem exists_run_of_wrapped {xs ys zs body out : List Token} (hy : toPostfix ys = .ok body)
    (h : toPostfix (xs ++ [.lparen] ++ ys ++ [.rparen] ++ zs) = .ok out) :
    ∃ before st after, run [] xs = .ok (before, st) ∧ convert st zs = .ok after := by
  rw [toPostfix_wrapped hy, bind_eq_ok_iff] at h
  obtain ⟨⟨before, st⟩, hx, h⟩ := h
  obtain ⟨after, hz, -⟩ := map_eq_ok_iff.1 h
  exact ⟨before, st, after, hx, hz⟩

/-- Where the parentheses around a phrase are taken away, the same tokens come out exactly if those
of the phrase and those behind it together do. -/
theorem unwrapped_eq_iff {xs ys zs before body after : List Token} {st : Stack}
    (hx : run [] xs = .ok (before, st)) (hy : toPostfix ys = .ok body)
    (hz : convert st zs = .ok after) :
    toPostfix (xs ++ ys ++ zs) = toPostfix (xs ++ [.lparen] ++ ys ++ [.rparen] ++ zs) ↔
      ∃ out st' rest, run st ys = .ok (out, st') ∧ convert st' zs = .ok rest ∧
        out ++ rest = body ++ after := by
  have hwrapped : toPostfix (xs ++ [.lparen] ++ ys ++ [.rparen] ++ zs) =
      .ok (before ++ (body ++ after)) := by
    rw [toPostfix_wrapped hy, hx]
    change (convert st zs).map _ = _
    rw [hz]
    rfl
  rw [hwrapped, List.append_assoc, toPostfix, convert_append_of_ok hx, convert_append,
    map_eq_ok_iff]
  constructor
  · intro h
    obtain ⟨joined, h, he⟩ := h
    obtain ⟨⟨out, st'⟩, hrun, h⟩ := bind_eq_ok_iff.1 h
    obtain ⟨rest, hrest, rfl⟩ := map_eq_ok_iff.1 h
    exact ⟨out, st', rest, hrun, hrest, List.append_cancel_left he⟩
  · intro h
    obtain ⟨out, st', rest, hrun, hrest, he⟩ := h
    refine ⟨out ++ rest, ?_, by rw [he]⟩
    rw [hrun]
    exact map_eq_ok_iff.2 ⟨rest, hrest, rfl⟩

end Postfix

theorem Alternates.endsOperand_getLast {xs : List Token} {ended ended' : Bool}
    (h : Alternates ended xs ended') : ∀ a ∈ xs.getLast?, a.endsOperand = ended' := by
  intro a ha
  obtain ⟨front, rfl⟩ := List.getLast?_eq_some_iff.1 ha
  obtain ⟨b, -, hlast⟩ := alternates_append.1 h
  exact hlast.2

/-- Behind an operand there is an operator or a closing parenthesis, if anything. -/
theorem Alternates.operator_of_head {ts : List Token} {ended : Bool}
    (h : Alternates true ts ended) : ∀ t ∈ ts.head?, t = .rparen ∨ ∃ op, t = .operator op := by
  intro t ht
  cases ts with
  | nil => cases ht
  | cons u ts =>
    cases ht
    cases t with
    | number text value => cases h.1
    | lparen => cases h.1
    | operator op => exact .inr ⟨op, rfl⟩
    | rparen => exact .inl rfl

theorem Alternates.around {xs ys zs : List Token}
    (h : Alternates false (xs ++ [.lparen] ++ ys ++ [.rparen] ++ zs) true) :
    Alternates false xs false ∧ Alternates false ys true ∧ Alternates true zs true := by
  simpa [alternates_append, Alternates, Token.startsOperand, Token.endsOperand] using h

open Postfix in
/-- In a sentence, taking away a pair of parentheses keeps the postfix order exactly if no operator
comes into the open, or the loosest that does binds more tightly than an operator on the left and at
least as tightly as one on the right. -/
theorem toPostfix_unwrapped_iff {xs ys zs : List Token} {t : Tree}
    (ht : Derives .sum (xs ++ [.lparen] ++ ys ++ [.rparen] ++ zs) t) (hys : closes 0 ys = true) :
    toPostfix (xs ++ ys ++ zs) = toPostfix (xs ++ [.lparen] ++ ys ++ [.rparen] ++ zs) ↔
      outerOperators 0 ys = [] ∨
        ∃ m, lowest? (outerOperators 0 ys) = some m ∧
          (∀ op, xs.getLast? = some (.operator op) → op.precedence < m) ∧
          ∀ op, zs.head? = some (.operator op) → op.precedence ≤ m := by
  obtain ⟨hax, hay, haz⟩ := ht.alternates.around
  obtain ⟨body, hr⟩ := Reorders.exists_of_closes hys
  obtain ⟨u, hu⟩ := hr.exists_derives hay
  have hbody : toPostfix ys = .ok u.postorder := hu.reorders.toPostfix_eq
  obtain ⟨before, st, after, hx, hz⟩ := exists_run_of_wrapped hbody ht.reorders.toPostfix_eq
  have hend := hax.endsOperand_getLast
  have hbehind := haz.operator_of_head
  rw [unwrapped_eq_iff hx hbody hz]
  constructor
  · intro h
    obtain ⟨out, st', rest, hrun, hrest, he⟩ := h
    by_cases ho : outerOperators 0 ys = []
    · exact .inl ho
    · obtain ⟨m, hm⟩ := exists_lowest? ho
      have hleft : ∀ op, xs.getLast? = some (.operator op) → op.precedence < m := by
        intro op hop
        obtain ⟨st₁, rfl⟩ := exists_top_of_run hx hop
        exact hu.lt_of_unwrapped hm hrun he
      refine .inr ⟨m, hm, hleft, ?_⟩
      intro op hop
      obtain ⟨zs', rfl⟩ := List.head?_eq_some_iff.1 hop
      exact hu.le_of_unwrapped hm (below_of_run hx hend hleft) haz.2 hrun hrest he
  · intro h
    obtain ho | ⟨m, hm, hleft, hright⟩ := h
    · exact ⟨_, st, after, hu.run_of_no_operator ho st, hz, rfl⟩
    · refine hu.unwrapped_of_below hm (below_of_run hx hend hleft) ?_ hz
      intro t ht'
      obtain h | ⟨op, rfl⟩ := hbehind t ht'
      · exact .inl h
      · exact .inr ⟨op, rfl, hright op ht'⟩

/-- A difference cannot do without its parentheses behind a minus sign, but a product can. -/
theorem toPostfix_unwrapped_minus :
    toPostfix [.number "9" 9, .operator .sub, .number "5" 5, .operator .sub, .number "2" 2] ≠
        toPostfix [.number "9" 9, .operator .sub, .lparen, .number "5" 5, .operator .sub,
          .number "2" 2, .rparen] ∧
      toPostfix [.number "9" 9, .operator .sub, .number "5" 5, .operator .mul, .number "2" 2] =
        toPostfix [.number "9" 9, .operator .sub, .lparen, .number "5" 5, .operator .mul,
          .number "2" 2, .rparen] := by
  have hwrapped {ys : List Token} {u : Tree} (h : Derives .sum ys u) :
      Derives .sum ([.number "9" 9, .operator .sub] ++ [.lparen] ++ ys ++ [.rparen] ++ [])
        (.node .sub (.leaf "9" 9) u) := by
    have hnine : Derives .sum [.number "9" 9] _ := .product (.factor (.number "9" 9))
    simpa using Derives.add rfl hnine (.factor (.paren h))
  have hfive : Derives .product [.number "5" 5] _ := .factor (.number "5" 5)
  have hdifference : Derives .sum [.number "5" 5, .operator .sub, .number "2" 2] _ :=
    .add rfl (.product hfive) (.factor (.number "2" 2))
  have hproduct : Derives .sum [.number "5" 5, .operator .mul, .number "2" 2] _ :=
    .product (.mul rfl hfive (.number "2" 2))
  constructor
  · intro he
    obtain ho | ⟨m, hm, hleft, -⟩ := (toPostfix_unwrapped_iff (hwrapped hdifference) rfl).1 he
    · cases ho
    · have hlt := hleft .sub rfl
      cases hm
      exact absurd hlt (by decide)
  · refine (toPostfix_unwrapped_iff (hwrapped hproduct) rfl).2 (.inr ⟨2, rfl, ?_, ?_⟩)
    · intro op hop
      cases hop
      decide
    · intro op hop
      cases hop

end DeskCalculator
