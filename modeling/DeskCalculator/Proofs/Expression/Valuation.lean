import DeskCalculator.Expression.Tree
import DeskCalculator.Proofs.Expression.Placement
import DeskCalculator.Proofs.Outcome

namespace DeskCalculator

namespace Tree

/-- Only a division by zero keeps a tree from having a value. -/
theorem eval_eq_error_iff {t : Tree} {f : Fault} :
    t.eval = .error f ↔ f = .divisionByZero ∧ t.DividesByZero := by
  induction t generalizing f with
  | leaf text value => simp [eval, DividesByZero]
  | node op l r ihl ihr =>
    rw [eval, bind_eq_error_iff, DividesByZero]
    cases hl : l.eval with
    | error f' =>
      obtain ⟨rfl, hd⟩ := ihl.1 hl
      simp only [Except.error.injEq, reduceCtorEq, false_and, exists_false, or_false, hd, true_or,
        and_true]
      exact eq_comm
    | ok x =>
      have hnl : ¬ l.DividesByZero := by
        intro hd
        have he := ihl.2 ⟨rfl, hd⟩
        rw [hl] at he
        cases he
      simp only [reduceCtorEq, Except.ok.injEq, exists_eq_left', false_or, hnl, bind_eq_error_iff,
        ihr, op.apply_eq_error_iff]
      constructor
      · intro h
        obtain ⟨rfl, hd⟩ | ⟨y, hy, rfl, h0, rfl⟩ := h
        · exact ⟨rfl, .inl hd⟩
        · exact ⟨rfl, .inr ⟨rfl, y, hy, h0⟩⟩
      · intro h
        obtain ⟨rfl, hd | ⟨rfl, y, hy, h0⟩⟩ := h
        · exact .inl ⟨rfl, hd⟩
        · exact .inr ⟨y, hy, rfl, h0, rfl⟩

theorem exists_value_iff {t : Tree} : (∃ value, t.eval = .ok value) ↔ ¬ t.DividesByZero := by
  cases he : t.eval with
  | error f => simp [(eval_eq_error_iff.1 he).2]
  | ok value =>
    simp only [Except.ok.injEq, exists_eq', true_iff]
    intro hd
    have hf := eval_eq_error_iff.2 ⟨rfl, hd⟩
    rw [he] at hf
    cases hf

/-- A tree has one number more than operators. -/
theorem countP_postorder (t : Tree) :
    t.postorder.countP Token.isNumber = t.postorder.countP Token.isOperator + 1 := by
  induction t with
  | leaf text value => rfl
  | node op l r ihl ihr =>
    simp only [postorder, List.countP_append, ihl, ihr]
    have hn : [Token.operator op].countP Token.isNumber = 0 := rfl
    have ho : [Token.operator op].countP Token.isOperator = 1 := rfl
    omega

/-- Trees on a stack, the latest on top, that evaluate to the values on another stack. -/
abbrev Evaluate (ts : List Tree) (st : List Float) : Prop :=
  List.Forall₂ (fun t value => t.eval = .ok value) ts st

/-- The postorders of the trees on a stack, from the bottom. -/
def postorders : List Tree → List Token
  | [] => []
  | t :: ts => postorders ts ++ t.postorder

end Tree

namespace Postfix

/-- One more token grows a leaf, or joins the two topmost trees. -/
theorem exists_trees_of_step {t : Token} {st st' : List Float} {trees : List Tree}
    (hst : Tree.Evaluate trees st) (h : evalStep st t = .ok st') :
    ∃ trees', Tree.Evaluate trees' st' ∧
      Tree.postorders trees ++ [t] = Tree.postorders trees' := by
  cases t with
  | number text value =>
    cases h
    exact ⟨.leaf text value :: trees, .cons rfl hst, rfl⟩
  | operator op =>
    cases hst with
    | nil => cases h
    | @cons r y _ _ hr hst =>
      cases hst with
      | nil => cases h
      | @cons l x trees st hl hst =>
        obtain ⟨value, hv, rfl⟩ := map_eq_ok_iff.1 h
        refine ⟨.node op l r :: trees, .cons ?_ hst, ?_⟩
        · rw [Tree.eval, hl, hr]
          exact hv
        · simp [Tree.postorders, Tree.postorder]
  | lparen => cases h
  | rparen => cases h

theorem exists_trees {ts : List Token} {st st' : List Float} {trees : List Tree}
    (hst : Tree.Evaluate trees st) (h : evalFrom st ts = .ok st') :
    ∃ trees', Tree.Evaluate trees' st' ∧
      Tree.postorders trees ++ ts = Tree.postorders trees' := by
  induction ts generalizing st trees with
  | nil =>
    cases h
    exact ⟨trees, hst, List.append_nil _⟩
  | cons t ts ih =>
    rw [evalFrom, List.foldlM_cons, bind_eq_ok_iff] at h
    obtain ⟨st₁, ht, hts⟩ := h
    obtain ⟨trees₁, htrees₁, he⟩ := exists_trees_of_step hst ht
    obtain ⟨trees', htrees', he'⟩ := ih htrees₁ hts
    refine ⟨trees', htrees', ?_⟩
    rw [← he', ← he, List.append_assoc, List.singleton_append]

end Postfix

theorem evalPostfix_eq_ok_iff {ts : List Token} {value : Float} :
    evalPostfix ts = .ok value ↔ ∃ t : Tree, ts = t.postorder ∧ t.eval = .ok value := by
  constructor
  · intro h
    have hst : Postfix.evalFrom [] ts = .ok [value] := by
      unfold evalPostfix at h
      split at h <;> cases h
      assumption
    obtain ⟨trees, htrees, he⟩ := Postfix.exists_trees .nil hst
    cases htrees with
    | cons ht hnil =>
      cases hnil
      exact ⟨_, by simpa [Tree.postorders] using he, ht⟩
  · intro h
    obtain ⟨t, rfl, ht⟩ := h
    rw [t.evalPostfix_postorder, ht]

end DeskCalculator
