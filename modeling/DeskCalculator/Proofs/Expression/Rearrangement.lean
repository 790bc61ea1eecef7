import DeskCalculator.Proofs.Expression.Calculation
import DeskCalculator.Proofs.Expression.Refusal
import DeskCalculator.Proofs.Expression.Rereading

namespace DeskCalculator

/-- No front part closes more parentheses than it opens, and the tokens close as many as they
open. -/
structure Balanced (ts : List Token) : Prop where
  front : ∀ xs, xs <+: ts → xs.count .rparen ≤ xs.count .lparen
  total : ts.count .rparen = ts.count .lparen

theorem forall_prefix_cons_iff {α : Type} {P : List α → Prop} {x : α} {xs : List α} :
    (∀ ys, ys <+: x :: xs → P ys) ↔ P [] ∧ ∀ ys, ys <+: xs → P (x :: ys) := by
  constructor
  · intro h
    exact ⟨h [] List.nil_prefix, fun ys hys => h (x :: ys) (List.cons_prefix_cons.2 ⟨rfl, hys⟩)⟩
  · intro h ys hys
    obtain rfl | ⟨zs, rfl, hzs⟩ := List.prefix_cons_iff.1 hys
    · exact h.1
    · exact h.2 zs hzs

theorem closes_iff {depth : Nat} {ts : List Token} :
    closes depth ts = true ↔
      (∀ xs, xs <+: ts → xs.count .rparen ≤ depth + xs.count .lparen) ∧
        ts.count .rparen = depth + ts.count .lparen := by
  induction ts generalizing depth with
  | nil => cases depth <;> simp [closes]
  | cons t ts ih =>
    rw [forall_prefix_cons_iff]
    cases t with
    | number text value =>
      have hrest : closes depth (.number text value :: ts) = closes depth ts := by
        cases depth <;> rfl
      simp [hrest, ih]
    | operator op =>
      have hrest : closes depth (.operator op :: ts) = closes depth ts := by
        cases depth <;> rfl
      simp [hrest, ih]
    | lparen =>
      have hrest : closes depth (.lparen :: ts) = closes (depth + 1) ts := by
        cases depth <;> rfl
      simp [hrest, ih, Nat.add_assoc, Nat.add_comm 1]
    | rparen =>
      cases depth with
      | zero =>
        -- the closing parenthesis by itself is a front part that closes one too many
        simp only [closes, Bool.false_eq_true, false_iff, not_and]
        intro h
        have hone := h.2 [] List.nil_prefix
        simp at hone
      | succ depth =>
        have hrest : closes (depth + 1) (.rparen :: ts) = closes depth ts := rfl
        simp [hrest, ih, Nat.add_right_comm]

theorem closes_iff_balanced {ts : List Token} : closes 0 ts = true ↔ Balanced ts := by
  rw [closes_iff]
  simp only [Nat.zero_add]
  exact ⟨fun h => ⟨h.1, h.2⟩, fun h => ⟨h.front, h.total⟩⟩

theorem pairwise_zipIdx {α : Type} (xs : List α) (n : Nat) :
    (xs.zipIdx n).Pairwise fun p q => p.2 < q.2 := by
  rw [← List.pairwise_map (f := Prod.snd) (R := (· < ·)), List.zipIdx_map_snd]
  exact List.pairwise_lt_range' ..

/-- Of two members that may not stand in one order, the other order is how they stand. -/
theorem pair_sublist_of_pairwise {α : Type} {R : α → α → Prop} {xs : List α} (h : xs.Pairwise R)
    {a b : α} (ha : a ∈ xs) (hb : b ∈ xs) (hne : a ≠ b) (hba : ¬ R b a) :
    [a, b].Sublist xs := by
  induction xs with
  | nil => cases ha
  | cons x xs ih =>
    obtain ⟨hx, hxs⟩ := List.pairwise_cons.1 h
    obtain rfl | ha' := List.mem_cons.1 ha
    · have hmem : b ∈ xs := (List.mem_cons.1 hb).resolve_left (Ne.symm hne)
      exact List.cons_sublist_cons.2 (List.singleton_sublist.2 hmem)
    · obtain rfl | hb' := List.mem_cons.1 hb
      · exact absurd (hx a ha') hba
      · exact (ih hxs ha' hb').cons x

/-- The numbers and operators among `ts`, each with its place, counted from `n`, in the order of
`out`. What comes before a number there stands before it in `ts` too. -/
structure Placed (n : Nat) (ts out : List Token) (placed : List (Token × Nat)) : Prop where
  tokens : placed.map Prod.fst = out
  perm : placed.Perm ((ts.zipIdx n).filter fun p => p.1.isNumber || p.1.isOperator)
  behind : placed.Pairwise fun p q => q.1.isNumber = true → p.2 < q.2

namespace Placed

variable {n : Nat} {xs ys out out' : List Token} {placed placed' : List (Token × Nat)}

theorem mem_zipIdx (h : Placed n xs out placed) {p : Token × Nat} (hp : p ∈ placed) :
    p ∈ xs.zipIdx n := (List.mem_filter.1 (h.perm.mem_iff.1 hp)).1

theorem place_lt (h : Placed n xs out placed) {p : Token × Nat} (hp : p ∈ placed) :
    p.2 < n + xs.length := (List.mem_zipIdx (h.mem_zipIdx hp)).2.1

theorem le_place (h : Placed n xs out placed) {p : Token × Nat} (hp : p ∈ placed) :
    n ≤ p.2 := (List.mem_zipIdx (h.mem_zipIdx hp)).1

theorem nil (n : Nat) : Placed n [] [] [] := ⟨rfl, .refl _, .nil⟩

theorem number (n : Nat) (text : String) (value : Float) :
    Placed n [.number text value] [.number text value] [(.number text value, n)] :=
  ⟨rfl, .refl _, List.pairwise_singleton _ _⟩

theorem pairwise_append {m : Nat} (hx : Placed n xs out placed) (hy : Placed m ys out' placed')
    (hm : n + xs.length ≤ m) :
    (placed ++ placed').Pairwise fun p q => q.1.isNumber = true → p.2 < q.2 := by
  refine List.pairwise_append.2 ⟨hx.behind, hy.behind, ?_⟩
  intro p hp q hq _
  have hlt := hx.place_lt hp
  have hle := hy.le_place hq
  omega

theorem append (hx : Placed n xs out placed) (hy : Placed (n + xs.length) ys out' placed') :
    Placed n (xs ++ ys) (out ++ out') (placed ++ placed') where
  tokens := by rw [List.map_append, hx.tokens, hy.tokens]
  perm := by
    rw [List.zipIdx_append, List.filter_append]
    exact hx.perm.append hy.perm
  behind := hx.pairwise_append hy (Nat.le_refl _)

theorem paren (h : Placed (n + 1) ys out placed) :
    Placed n (.lparen :: ys ++ [.rparen]) out placed where
  tokens := h.tokens
  perm := by
    have hp := h.perm
    simpa [List.zipIdx_cons, List.zipIdx_append, Token.isNumber, Token.isOperator] using hp
  behind := h.behind

/-- An operator is put behind its right operand. There it is behind numbers that it stood before,
but no number is behind it that was not. -/
theorem operator (hx : Placed n xs out placed) (hy : Placed (n + xs.length + 1) ys out' placed')
    (op : Operator) :
    Placed n (xs ++ .operator op :: ys) (out ++ out' ++ [.operator op])
      (placed ++ placed' ++ [(.operator op, n + xs.length)]) where
  tokens := by simp [hx.tokens, hy.tokens]
  perm := by
    rw [List.zipIdx_append, List.zipIdx_cons, List.filter_append, List.filter_cons_of_pos rfl]
    exact Reorders.perm_operator hx.perm hy.perm _
  behind := by
    have hoperands := hx.pairwise_append hy (Nat.le_succ _)
    refine List.pairwise_append.2 ⟨hoperands, List.pairwise_singleton _ _, ?_⟩
    intro p _ q hq hn
    rw [List.mem_singleton.1 hq] at hn
    cases hn

/-- A number that stands before another number or an operator still comes before it. -/
theorem pair_sublist (h : Placed n xs out placed) {p q : Token × Nat}
    (hp : p.1.isNumber = true) (hq : (q.1.isNumber || q.1.isOperator) = true)
    (hpq : [p, q].Sublist (xs.zipIdx n)) : [p, q].Sublist placed := by
  have hlt : p.2 < q.2 := List.pairwise_iff_forall_sublist.1 (pairwise_zipIdx xs n) hpq
  have hmemp : p ∈ placed := h.perm.mem_iff.2 (List.mem_filter.2 ⟨hpq.mem (by simp), by simp [hp]⟩)
  have hmemq : q ∈ placed := h.perm.mem_iff.2 (List.mem_filter.2 ⟨hpq.mem (by simp), hq⟩)
  refine pair_sublist_of_pairwise h.behind hmemp hmemq ?_ ?_
  · intro he
    rw [he] at hlt
    omega
  · intro hbehind
    have hgt := hbehind hp
    omega

end Placed

theorem Reorders.exists_placed {level : Level} {ts out : List Token} (h : Reorders level ts out)
    (n : Nat) : ∃ placed, Placed n ts out placed := by
  induction h generalizing n with
  | empty => exact ⟨[], .nil n⟩
  | @number xs _ text value _ ih =>
    obtain ⟨placed, hx⟩ := ih n
    exact ⟨_, hx.append (.number (n + xs.length) text value)⟩
  | @paren xs _ _ _ _ _ ihx ihy =>
    obtain ⟨placed, hx⟩ := ihx n
    obtain ⟨placed', hy⟩ := ihy (n + xs.length + 1)
    exact ⟨_, hx.append hy.paren⟩
  | factor _ ih => exact ih n
  | @mul xs _ _ _ op _ _ _ ihx ihy =>
    obtain ⟨placed, hx⟩ := ihx n
    obtain ⟨placed', hy⟩ := ihy (n + xs.length + 1)
    exact ⟨_, hx.operator hy op⟩
  | product _ ih => exact ih n
  | @add xs _ _ _ op _ _ _ ihx ihy =>
    obtain ⟨placed, hx⟩ := ihx n
    obtain ⟨placed', hy⟩ := ihy (n + xs.length + 1)
    exact ⟨_, hx.operator hy op⟩

theorem Reorders.filter_isNumber {level : Level} {ts out : List Token}
    (h : Reorders level ts out) : out.filter Token.isNumber = ts.filter Token.isNumber := by
  induction h with
  | empty => rfl
  | number text value _ ih => rw [List.filter_append, List.filter_append, ih]
  | paren _ _ ihx ihy => simp [Token.isNumber, ihx, ihy]
  | factor _ ih => exact ih
  | mul _ _ _ ihx ihy => simp [Token.isNumber, ihx, ihy]
  | product _ ih => exact ih
  | add _ _ _ ihx ihy => simp [Token.isNumber, ihx, ihy]

theorem exists_toPostfix_iff {ts : List Token} : (∃ out, toPostfix ts = .ok out) ↔ Balanced ts := by
  rw [← closes_iff_balanced]
  constructor
  · intro h
    obtain ⟨out, hout⟩ := h
    exact closes_of_toPostfix hout
  · intro h
    obtain ⟨out, hout⟩ := Reorders.exists_of_closes h
    exact ⟨out, hout.toPostfix_eq⟩

theorem toPostfix_eq_error_iff {ts : List Token} {f : Fault} :
    toPostfix ts = .error f ↔ ¬ Balanced ts ∧ f = .unbalanced := by
  rw [← exists_toPostfix_iff]
  constructor
  · intro h
    refine ⟨?_, Postfix.unbalanced_of_convert h⟩
    intro hok
    obtain ⟨out, hout⟩ := hok
    rw [h] at hout
    cases hout
  · intro h
    obtain ⟨hno, rfl⟩ := h
    cases hts : toPostfix ts with
    | ok out => exact absurd ⟨out, hts⟩ hno
    | error f => rw [Postfix.unbalanced_of_convert hts]

open Postfix in
/-- Only a parenthesis is an unexpected token. -/
theorem exists_paren_of_evalPostfix {ts : List Token} {text : String}
    (h : evalPostfix ts = .error (.unexpectedToken text)) :
    ∃ t ∈ ts, (t.isNumber || t.isOperator) = false := by
  obtain hf | ⟨st, -, -, hf⟩ := evalPostfix_eq_error_iff.1 h
  · obtain ⟨k, ⟨t, ht, hfault⟩, -⟩ := evalFrom_eq_error_iff.1 hf
    have hmem : t ∈ ts := List.mem_of_getElem? ht
    cases hfault with
    | lparen => exact ⟨_, hmem, rfl⟩
    | rparen => exact ⟨_, hmem, rfl⟩
  · cases hf

theorem Expression.exists_toPostfix_of_compile {e : Json.Document} {rpn : List Token}
    (h : compile e = .ok rpn) : ∃ ts, toPostfix ts = .ok rpn := by
  cases e with
  | text s =>
    change compileText s = .ok rpn at h
    rw [compileText_of_not_allBlank (not_allBlank_of_compileText h)] at h
    obtain ⟨ts, -, hp⟩ := bind_eq_ok_iff.1 h
    exact ⟨ts, hp⟩
  | _ => cases h

/-- Tokens are put in postfix order exactly where their parentheses are balanced. Then the numbers
and operators among them, and no others, are in the order, the numbers as they stood, and a number
that stood before an operator comes before it still. So a text in postfix order holds no token that
is unexpected there. -/
theorem toPostfix_outcome (ts : List Token) :
    ((∃ out, toPostfix ts = .ok out) ↔ Balanced ts) ∧
      (∀ f, toPostfix ts = .error f ↔ ¬ Balanced ts ∧ f = .unbalanced) ∧
      (∀ out, toPostfix ts = .ok out →
        (∀ t ∈ out, t ≠ .lparen ∧ t ≠ .rparen) ∧
          out.Perm (ts.filter fun t => t.isNumber || t.isOperator) ∧
          out.filter Token.isNumber = ts.filter Token.isNumber ∧
          ∃ placed : List (Token × Nat), placed.map Prod.fst = out ∧
            placed.Perm (ts.zipIdx.filter fun p => p.1.isNumber || p.1.isOperator) ∧
            ∀ p q : Token × Nat, p.1.isNumber = true → (q.1.isNumber || q.1.isOperator) = true →
              [p, q].Sublist ts.zipIdx → [p, q].Sublist placed) ∧
      ∀ e rpn text, Expression.compile e = .ok rpn →
        evalPostfix rpn ≠ .error (.unexpectedToken text) := by
  refine ⟨exists_toPostfix_iff, fun f => toPostfix_eq_error_iff, ?_, ?_⟩
  · intro out hout
    have hr := toPostfix_eq_ok_iff.1 hout
    obtain ⟨placed, hplaced⟩ := hr.exists_placed 0
    refine ⟨?_, hr.perm, hr.filter_isNumber, placed, hplaced.tokens, hplaced.perm, ?_⟩
    · intro t ht
      have hkind := (mem_of_toPostfix hout ht).2
      cases t with
      | lparen => cases hkind
      | rparen => cases hkind
      | _ => simp
    · intro p q hp hq hpq
      exact hplaced.pair_sublist hp hq hpq
  · intro e rpn text h hf
    obtain ⟨ts', hp⟩ := Expression.exists_toPostfix_of_compile h
    obtain ⟨t, ht, hparen⟩ := exists_paren_of_evalPostfix hf
    rw [(mem_of_toPostfix hp ht).2] at hparen
    cases hparen

example : toPostfix [.rparen, .lparen] = .error .unbalanced := by decide

end DeskCalculator
