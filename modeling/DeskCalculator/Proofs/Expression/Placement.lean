import DeskCalculator.Expression.Grammar
import Mathlib.Data.List.Chain

/-!
Where operands stand among tokens. Reading from left to right, an operand has just ended or is
due. Tokens can go wrong in two ways: an operand starts where one has just ended, or is missing
where one is due. How often the one happens more than the other is settled by the numbers and
operators alone (`numbers_add_gaps`): in tokens that have one operator less than numbers, the two
happen equally often.
-/

namespace DeskCalculator

namespace Token

def isNumber : Token → Bool
  | .number _ _ => true
  | _ => false

def isOperator : Token → Bool
  | .operator _ => true
  | _ => false

end Token

/-- Somewhere no operand has ended and none starts: before an operator, a closing parenthesis or
the end of the tokens, and behind an operator, an opening parenthesis or their beginning. -/
def LacksOperand (ts : List Token) : Prop :=
  ∃ xs ys, ts = xs ++ ys ∧ (∀ a ∈ xs.getLast?, a.endsOperand = false) ∧
    ∀ b ∈ ys.head?, b.startsOperand = false

/-- Operands alternate with what stands between them. The flags say whether an operand has just
ended, before the tokens and after them. -/
def Alternates (ended : Bool) : List Token → Bool → Prop
  | [], ended' => ended = ended'
  | t :: ts, ended' => t.startsOperand = !ended ∧ Alternates t.endsOperand ts ended'

/-- How many operands start where one has just ended. -/
def juxtapositions (ended : Bool) : List Token → Nat
  | [] => 0
  | t :: ts => (ended && t.startsOperand).toNat + juxtapositions t.endsOperand ts

/-- How many operands are missing where one is due. -/
def gaps (ended : Bool) : List Token → Nat
  | [] => (!ended).toNat
  | t :: ts => (!ended && !t.startsOperand).toNat + gaps t.endsOperand ts

theorem token_balance (ended : Bool) (t : Token) :
    t.isNumber.toNat + (!ended && !t.startsOperand).toNat + (!t.endsOperand).toNat =
      t.isOperator.toNat + (ended && t.startsOperand).toNat + (!ended).toNat := by
  cases t <;> cases ended <;> rfl

theorem numbers_add_gaps (ended : Bool) (ts : List Token) :
    ts.countP Token.isNumber + gaps ended ts =
      ts.countP Token.isOperator + juxtapositions ended ts + (!ended).toNat := by
  induction ts generalizing ended with
  | nil => simp [gaps, juxtapositions]
  | cons t ts ih =>
    have ht := token_balance ended t
    have hts := ih t.endsOperand
    have hcount (p : Token → Bool) : (t :: ts).countP p = (p t).toNat + ts.countP p := by
      cases h : p t <;> simp [h, Nat.add_comm]
    rw [hcount, hcount, gaps, juxtapositions]
    omega

theorem alternates_append {ended ended' : Bool} {xs ys : List Token} :
    Alternates ended (xs ++ ys) ended' ↔
      ∃ b, Alternates ended xs b ∧ Alternates b ys ended' := by
  induction xs generalizing ended with
  | nil => simp [Alternates]
  | cons t xs ih => simp [Alternates, ih, and_assoc]

/-- Nothing goes wrong exactly where operands alternate. -/
theorem alternates_iff {ended : Bool} {ts : List Token} :
    Alternates ended ts true ↔ juxtapositions ended ts = 0 ∧ gaps ended ts = 0 := by
  induction ts generalizing ended with
  | nil => cases ended <;> simp [Alternates, juxtapositions, gaps]
  | cons t ts ih =>
    rw [Alternates, ih, juxtapositions, gaps]
    cases ended <;> cases t.startsOperand <;> simp

theorem not_juxtaposed_iff_isChain {ts : List Token} :
    ¬ Juxtaposed ts ↔
      ts.IsChain fun a b => a.endsOperand = true → b.startsOperand = false := by
  rw [List.isChain_iff_forall_rel_of_append_cons_cons]
  constructor
  · intro h a b xs ys he ha
    cases hb : b.startsOperand with
    | false => rfl
    | true => exact absurd ⟨xs, a, b, ys, he, ha, hb⟩ h
  · intro h hj
    obtain ⟨xs, a, b, ys, he, ha, hb⟩ := hj
    rw [h he ha] at hb
    cases hb

theorem juxtapositions_eq_zero_iff_isChain {ended : Bool} {ts : List Token} :
    juxtapositions ended ts = 0 ↔
      (∀ b ∈ ts.head?, ended = true → b.startsOperand = false) ∧
        ts.IsChain fun a b => a.endsOperand = true → b.startsOperand = false := by
  induction ts generalizing ended with
  | nil => simp [juxtapositions]
  | cons t ts ih =>
    rw [juxtapositions, Nat.add_eq_zero_iff, ih, List.isChain_cons]
    cases ended <;> simp

theorem juxtaposed_iff {ts : List Token} : Juxtaposed ts ↔ juxtapositions false ts ≠ 0 := by
  rw [← not_iff_not, not_juxtaposed_iff_isChain, not_not, juxtapositions_eq_zero_iff_isChain]
  simp

instance (ts : List Token) : Decidable (Juxtaposed ts) := decidable_of_iff' _ juxtaposed_iff

theorem gaps_ne_zero_iff {ended : Bool} {ts : List Token} :
    gaps ended ts ≠ 0 ↔
      ∃ xs ys, ts = xs ++ ys ∧ (∀ a ∈ xs.getLast?, a.endsOperand = false) ∧
        (xs = [] → ended = false) ∧ ∀ b ∈ ys.head?, b.startsOperand = false := by
  induction ts generalizing ended with
  | nil => cases ended <;> simp [gaps]
  | cons t ts ih =>
    have hsplit : gaps ended (t :: ts) ≠ 0 ↔
        ended = false ∧ t.startsOperand = false ∨ gaps t.endsOperand ts ≠ 0 := by
      rw [gaps]
      cases ended <;> cases t.startsOperand <;> simp
    rw [hsplit, ih]
    constructor
    · intro h
      obtain ⟨he, ht⟩ | ⟨xs, ys, rfl, hlast, hnil, hhead⟩ := h
      · exact ⟨[], t :: ts, rfl, by simp, fun _ => he, by simpa using ht⟩
      · refine ⟨t :: xs, ys, rfl, ?_, by simp, hhead⟩
        cases xs with
        | nil => simpa using hnil rfl
        | cons x xs => simpa using hlast
    · intro h
      obtain ⟨xs, ys, he, hlast, hnil, hhead⟩ := h
      cases xs with
      | nil =>
        rw [List.nil_append] at he
        subst he
        exact .inl ⟨hnil rfl, by simpa using hhead⟩
      | cons x xs =>
        rw [List.cons_append, List.cons.injEq] at he
        obtain ⟨rfl, rfl⟩ := he
        refine .inr ⟨xs, ys, rfl, ?_, ?_, hhead⟩
        · intro a ha
          apply hlast a
          cases xs with
          | nil => simp at ha
          | cons x xs => simpa using ha
        · intro hxs
          exact hlast t (by simp [hxs])

theorem lacksOperand_iff {ts : List Token} : LacksOperand ts ↔ gaps false ts ≠ 0 := by
  rw [gaps_ne_zero_iff]
  simp [LacksOperand]

instance (ts : List Token) : Decidable (LacksOperand ts) := decidable_of_iff' _ lacksOperand_iff

/-- Where numbers outnumber the operators by one, juxtaposed operands and missing ones even out. -/
theorem gaps_eq_juxtapositions {ts : List Token}
    (h : ts.countP Token.isNumber = ts.countP Token.isOperator + 1) :
    gaps false ts = juxtapositions false ts := by
  have hb := numbers_add_gaps false ts
  simp only [Bool.not_false, Bool.toNat_true] at hb
  omega

end DeskCalculator
