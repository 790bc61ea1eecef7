import DeskCalculator.Proofs.Expression.Conversion
import DeskCalculator.Proofs.Expression.Placement

/-!
What the converter makes of tokens that need not be an expression. It reads them by the grammar
of infix expressions, except that an operand may be a row of several numbers and parenthesised
phrases, or nothing at all (`Reorders`). It succeeds exactly on the phrases of this grammar, which
are the tokens with balanced parentheses, and puts each of them in postfix order
(`toPostfix_eq_ok_iff`).
-/

namespace DeskCalculator

/-- The tokens are a phrase of the level whose operands may be rows, and `out` is the phrase in
postfix order: each operator behind its operands, and rows as they stand. -/
inductive Reorders : Level → List Token → List Token → Prop where
  | empty : Reorders .factor [] []
  | number {xs out : List Token} (text : String) (value : Float) :
    Reorders .factor xs out →
    Reorders .factor (xs ++ [.number text value]) (out ++ [.number text value])
  | paren {xs ys out out' : List Token} :
    Reorders .factor xs out → Reorders .sum ys out' →
    Reorders .factor (xs ++ (.lparen :: ys ++ [.rparen])) (out ++ out')
  | factor {ts out : List Token} : Reorders .factor ts out → Reorders .product ts out
  | mul {xs ys out out' : List Token} {op : Operator} :
    op.precedence = 2 → Reorders .product xs out → Reorders .factor ys out' →
    Reorders .product (xs ++ .operator op :: ys) (out ++ out' ++ [.operator op])
  | product {ts out : List Token} : Reorders .product ts out → Reorders .sum ts out
  | add {xs ys out out' : List Token} {op : Operator} :
    op.precedence = 1 → Reorders .sum xs out → Reorders .product ys out' →
    Reorders .sum (xs ++ .operator op :: ys) (out ++ out' ++ [.operator op])

/-- The least precedence of an operator that a phrase of the level leaves pending. -/
def Level.floor : Level → Nat
  | .sum => 1
  | .product => 2
  | .factor => 3

namespace Postfix

/-- No operator of that precedence or more waits above the topmost parenthesis. -/
def Below (bound : Nat) (st : Stack) : Prop :=
  popWhile (fun op => decide (bound ≤ op.precedence)) st = ([], st)

theorem below_paren (bound : Nat) (st : Stack) : Below bound (.paren :: st) := rfl

theorem below_operator_iff {bound : Nat} {op : Operator} {st : Stack} :
    Below bound (.operator op :: st) ↔ op.precedence < bound := by
  constructor
  · intro h
    by_contra hle
    have hpop : decide (bound ≤ op.precedence) = true := by simpa using hle
    simp [Below, popWhile, hpop] at h
  · intro h
    have hop : ¬ bound ≤ op.precedence := by omega
    simp [Below, popWhile, hop]

theorem below_operator {bound : Nat} {op : Operator} (h : op.precedence < bound) (st : Stack) :
    Below bound (.operator op :: st) := below_operator_iff.2 h

theorem Below.mono {bound bound' : Nat} (h : bound ≤ bound') {st : Stack}
    (hst : Below bound st) : Below bound' st := by
  cases st with
  | nil => rfl
  | cons p st =>
    cases p with
    | paren => exact below_paren bound' st
    | operator op =>
      have hop : op.precedence < bound := below_operator_iff.1 hst
      exact below_operator (by omega) st

theorem below_factor (st : Stack) : Below Level.factor.floor st := by
  cases st with
  | nil => rfl
  | cons p st =>
    cases p with
    | paren => exact below_paren _ st
    | operator op =>
      have hop : op.precedence < Level.factor.floor := by
        rcases op.precedence_cases with h | h <;> rw [h] <;> decide
      exact below_operator hop st

/-- An operator releases all pending ones of its precedence or more, and only these. -/
theorem step_operator {op : Operator} {pending : List Operator}
    (hp : ∀ o ∈ pending, op.precedence ≤ o.precedence) {st : Stack}
    (hst : Below op.precedence st) :
    step (pending.map .operator ++ st) (.operator op) =
      .ok (pending.map .operator, .operator op :: st) := by
  have hpop := popWhile_operators (p := fun o => decide (op.precedence ≤ o.precedence))
    (fun o ho => by simpa using hp o ho) st
  rw [Below] at hst
  rw [step, hpop, hst, List.append_nil]

/-- A closing parenthesis releases all operators above the opening one. -/
theorem step_rparen (pending : List Operator) (st : Stack) :
    step (pending.map .operator ++ .paren :: st) .rparen = .ok (pending.map .operator, st) := by
  have hpop := popWhile_operators (p := fun _ => true) (fun op (_ : op ∈ pending) => rfl)
    (Pending.paren :: st)
  have hparen : popWhile (fun _ => true) (Pending.paren :: st) = ([], .paren :: st) := rfl
  rw [step, hpop, hparen, List.append_nil]

theorem no_pending {pending : List Operator}
    (h : ∀ op ∈ pending, Level.factor.floor ≤ op.precedence) : pending = [] := by
  apply List.eq_nil_iff_forall_not_mem.2
  intro op hop
  have hfloor : 3 ≤ op.precedence := h op hop
  rcases op.precedence_cases with hp | hp <;> omega

end Postfix

namespace Reorders

open Postfix

/-- On any stack that lies below the level, the tokens release the first part of the phrase and
leave its last operators pending. -/
theorem run_eq {level : Level} {ts out : List Token} (h : Reorders level ts out) {st : Stack}
    (hst : Below level.floor st) :
    ∃ (released : List Token) (pending : List Operator),
      released ++ pending.map .operator = out ∧
      (∀ op ∈ pending, level.floor ≤ op.precedence) ∧
      run st ts = .ok (released, pending.map .operator ++ st) := by
  induction h generalizing st with
  | empty => exact ⟨[], [], rfl, by simp, rfl⟩
  | number text value _ ih =>
    obtain ⟨released, pending, rfl, hp, hx⟩ := ih hst
    obtain rfl := no_pending hp
    have hn : run st [.number text value] = .ok ([.number text value], st) := run_of_step rfl
    exact ⟨_, [], by simp, by simp, run_append_of_ok hx hn⟩
  | paren _ _ ihx ihy =>
    obtain ⟨released, pending, rfl, hp, hx⟩ := ihx hst
    obtain rfl := no_pending hp
    obtain ⟨released', pending', rfl, -, hy⟩ := ihy (below_paren _ st)
    have hopen : run st [.lparen] = .ok ([], .paren :: st) := run_of_step rfl
    have hclose := run_of_step (step_rparen pending' st)
    have hinner := run_append_of_ok hopen (run_append_of_ok hy hclose)
    refine ⟨_, [], ?_, by simp, run_append_of_ok hx hinner⟩
    simp
  | factor _ ih =>
    obtain ⟨released, pending, rfl, hp, hx⟩ := ih (below_factor st)
    obtain rfl := no_pending hp
    exact ⟨released, [], rfl, by simp, hx⟩
  | @mul _ _ _ _ op hop _ _ ihx ihy =>
    -- the operator releases what the product before it has left pending, and waits in its place
    obtain ⟨released, pending, rfl, hp, hx⟩ := ihx hst
    obtain ⟨released', pending', rfl, hp', hy⟩ := ihy (below_factor (.operator op :: st))
    obtain rfl := no_pending hp'
    have hstep := step_operator (fun o ho => by rw [hop]; exact hp o ho)
      (show Below op.precedence st by rw [hop]; exact hst)
    have hrun := run_append_of_ok hx (run_append_of_ok (run_of_step hstep) hy)
    refine ⟨_, [op], ?_, ?_, hrun⟩
    · simp
    · simp [hop, Level.floor]
  | product _ ih =>
    obtain ⟨released, pending, rfl, hp, hx⟩ := ih (hst.mono (by decide))
    refine ⟨released, pending, rfl, ?_, hx⟩
    intro op hop
    exact Nat.le_trans (by decide) (hp op hop)
  | @add _ _ _ _ op hop _ _ ihx ihy =>
    obtain ⟨released, pending, rfl, hp, hx⟩ := ihx hst
    have hbelow : op.precedence < Level.product.floor := by rw [hop]; decide
    obtain ⟨released', pending', rfl, hp', hy⟩ := ihy (below_operator hbelow st)
    have hstep := step_operator (fun o ho => by rw [hop]; exact hp o ho)
      (show Below op.precedence st by rw [hop]; exact hst)
    have hrun := run_append_of_ok hx (run_append_of_ok (run_of_step hstep) hy)
    refine ⟨_, pending' ++ [op], ?_, ?_, by simpa using hrun⟩
    · simp
    · intro o ho
      rcases List.mem_append.1 ho with ho | ho
      · exact Nat.le_trans (by decide) (hp' o ho)
      · simp only [List.mem_singleton] at ho
        rw [ho, hop]
        decide

theorem toPostfix_eq {ts out : List Token} (h : Reorders .sum ts out) :
    toPostfix ts = .ok out := by
  obtain ⟨released, pending, rfl, -, hrun⟩ := h.run_eq (show Below Level.sum.floor [] from rfl)
  rw [List.append_nil] at hrun
  rw [toPostfix, convert_eq_run, hrun]
  change (drain (pending.map .operator)).map (released ++ ·) = _
  rw [drain_operators]
  rfl

theorem perm_operator {α : Type} {xs ys out out' : List α} (hx : out.Perm xs) (hy : out'.Perm ys)
    (t : α) : (out ++ out' ++ [t]).Perm (xs ++ t :: ys) := by
  have hlast := List.perm_append_singleton t (out ++ out')
  have hfirst := (hx.append hy).cons t
  exact hlast.trans (hfirst.trans List.perm_middle.symm)

/-- Reordering drops the parentheses; it neither loses nor repeats any other token. -/
theorem perm {level : Level} {ts out : List Token} (h : Reorders level ts out) :
    out.Perm (ts.filter fun t => t.isNumber || t.isOperator) := by
  induction h with
  | empty => exact .refl _
  | number text value _ ih =>
    rw [List.filter_append]
    exact ih.append_right [.number text value]
  | paren _ _ ihx ihy =>
    have hp := ihx.append ihy
    simpa [List.filter_cons, Token.isNumber, Token.isOperator] using hp
  | factor _ ih => exact ih
  | mul _ _ _ ihx ihy =>
    rw [List.filter_append, List.filter_cons_of_pos rfl]
    exact perm_operator ihx ihy _
  | product _ ih => exact ih
  | add _ _ _ ihx ihy =>
    rw [List.filter_append, List.filter_cons_of_pos rfl]
    exact perm_operator ihx ihy _

theorem countP_eq {level : Level} {ts out : List Token} (h : Reorders level ts out)
    {p : Token → Bool} (hp : ∀ t, p t = true → (t.isNumber || t.isOperator) = true) :
    out.countP p = ts.countP p := by
  rw [h.perm.countP_eq, List.countP_filter]
  apply List.countP_congr
  intro t _
  have ht := hp t
  constructor
  · intro h'
    exact (Bool.and_eq_true_iff.1 h').1
  · intro h'
    rw [h', ht h']
    rfl

/-- A phrase can be followed by whatever its last row can be followed by. -/
theorem extend {level : Level} {xs out ys : List Token} (h : Reorders level xs out)
    (hys : ∀ row out, Reorders .factor row out → ∃ out', Reorders .factor (row ++ ys) out') :
    ∃ out', Reorders level (xs ++ ys) out' := by
  induction h with
  | empty => exact hys _ _ .empty
  | number text value h _ => exact hys _ _ (.number text value h)
  | paren hx hy _ _ => exact hys _ _ (.paren hx hy)
  | factor _ ih =>
    obtain ⟨out', h'⟩ := ih
    exact ⟨out', .factor h'⟩
  | mul hop hx _ _ ihy =>
    obtain ⟨out', h'⟩ := ihy
    rw [List.append_assoc, List.cons_append]
    exact ⟨_, .mul hop hx h'⟩
  | product _ ih =>
    obtain ⟨out', h'⟩ := ih
    exact ⟨out', .product h'⟩
  | add hop hx _ _ ihy =>
    obtain ⟨out', h'⟩ := ihy
    rw [List.append_assoc, List.cons_append]
    exact ⟨_, .add hop hx h'⟩

/-- An operator can follow on any phrase; its right operand may be missing. -/
theorem append_operator {xs out : List Token} (h : Reorders .sum xs out) (op : Operator) :
    ∃ out', Reorders .sum (xs ++ [.operator op]) out' := by
  rcases op.precedence_cases with hop | hop
  · exact ⟨_, .add hop h (.factor .empty)⟩
  · cases h with
    | product hx => exact ⟨_, .product (.mul hop hx .empty)⟩
    | @add xs ys _ _ op' hop' hx hy =>
      have hm := Reorders.mul hop hy .empty
      rw [List.append_assoc, List.cons_append]
      exact ⟨_, .add hop' hx hm⟩

/-- The tokens read so far inside some parentheses that are still open: those between the
parentheses, the innermost first, and `xs` behind the last one. -/
def enclose : List (List Token) → List Token → List Token
  | [], xs => xs
  | ys :: frames, xs => enclose frames (ys ++ .lparen :: xs)

/-- Reading goes on with a phrase in each of the open parentheses, whatever comes next. -/
theorem exists_of_enclose {ts : List Token} {frames : List (List Token)} {xs : List Token}
    (hframes : ∀ ys ∈ frames, ∃ out, Reorders .sum ys out) (hxs : ∃ out, Reorders .sum xs out)
    (hts : closes frames.length ts = true) :
    ∃ out, Reorders .sum (enclose frames (xs ++ ts)) out := by
  induction ts generalizing frames xs with
  | nil =>
    cases frames with
    | nil => simpa [enclose] using hxs
    | cons ys frames => simp [closes] at hts
  | cons t ts ih =>
    obtain ⟨out, hx⟩ := hxs
    rw [← List.singleton_append, ← List.append_assoc]
    cases t with
    | number text value =>
      refine ih hframes (hx.extend fun row out hrow => ⟨_, .number text value hrow⟩) ?_
      cases frames <;> exact hts
    | operator op =>
      apply ih hframes (hx.append_operator op)
      cases frames <;> exact hts
    | lparen =>
      have hframes' : ∀ ys ∈ xs :: frames, ∃ out, Reorders .sum ys out := by
        intro ys hys
        rcases List.mem_cons.1 hys with rfl | hys
        · exact ⟨out, hx⟩
        · exact hframes ys hys
      have hts' : closes (xs :: frames).length ts = true := by
        cases frames <;> exact hts
      have hopen := ih hframes' ⟨_, .product (.factor .empty)⟩ hts'
      rw [enclose, List.nil_append] at hopen
      simpa using hopen
    | rparen =>
      cases frames with
      | nil => simp [closes] at hts
      | cons ys frames =>
        obtain ⟨out', hy⟩ := hframes ys (by simp)
        have hclose : ∃ out, Reorders .sum (ys ++ (.lparen :: xs ++ [.rparen])) out :=
          hy.extend fun row out hrow => ⟨_, .paren hrow hx⟩
        have hframes' : ∀ zs ∈ frames, ∃ out, Reorders .sum zs out :=
          fun zs hzs => hframes zs (List.mem_cons_of_mem _ hzs)
        have hrest := ih hframes' hclose hts
        rw [enclose]
        simpa using hrest

theorem exists_of_closes {ts : List Token} (h : closes 0 ts = true) :
    ∃ out, Reorders .sum ts out := by
  have hframes : ∀ ys ∈ ([] : List (List Token)), ∃ out, Reorders .sum ys out := by simp
  have he := exists_of_enclose hframes ⟨_, .product (.factor .empty)⟩ h
  simpa [enclose] using he

end Reorders

theorem closes_of_toPostfix {ts out : List Token} (h : toPostfix ts = .ok out) :
    closes 0 ts = true := Postfix.closes_of_convert h

theorem toPostfix_eq_ok_iff {ts out : List Token} :
    toPostfix ts = .ok out ↔ Reorders .sum ts out := by
  constructor
  · intro h
    obtain ⟨out', h'⟩ := Reorders.exists_of_closes (closes_of_toPostfix h)
    have ho := h'.toPostfix_eq
    rw [h, Except.ok.injEq] at ho
    rw [ho]
    exact h'
  · exact Reorders.toPostfix_eq

end DeskCalculator
