import DeskCalculator.Proofs.Expression.Refusal
import DeskCalculator.Proofs.Expression.Lexing
import DeskCalculator.Proofs.Expression.Reordering

namespace DeskCalculator

namespace Token

/-- The token of a postfix list that a text stands for: the sign of an operator, or a literal. -/
def ofText (s : String) : Except Fault Token :=
  match s.toList with
  | [c] =>
    match Operator.ofSymbol? c with
    | some op => .ok (.operator op)
    | none => ofLiteral [c]
  | cs => ofLiteral cs

theorem text_of_ofSymbol {c : Char} {t : Token} (h : ofSymbol c = .ok t) : t.text.toList = [c] := by
  unfold ofSymbol at h
  split_ifs at h with hopen hclose
  · cases h
    rw [hopen]
    rfl
  · cases h
    rw [hclose]
    rfl
  · split at h
    next op hop =>
      cases h
      rw [← Operator.symbol_of_ofSymbol? hop]
      exact String.toList_singleton op.symbol
    next => cases h

theorem text_of_ofLiteral {cs : List Char} {t : Token} (h : ofLiteral cs = .ok t) :
    t.text.toList = cs := by
  unfold ofLiteral at h
  split_ifs at h
  cases h
  exact String.toList_ofList

/-- Nothing of a piece is lost in its token. -/
theorem text_of_ofPiece {cs : List Char} {t : Token} (h : ofPiece cs = .ok t) :
    t.text.toList = cs := by
  unfold ofPiece at h
  split at h
  · split_ifs at h
    · exact text_of_ofLiteral h
    · exact text_of_ofSymbol h
  · exact text_of_ofLiteral h

theorem wellFormed_of_ofPiece {cs : List Char} {t : Token} (h : ofPiece cs = .ok t) :
    t.WellFormed := by
  rw [WellFormed, text_of_ofPiece h]
  exact h

theorem not_ofSymbol?_of_isNumeric {c : Char} (h : Literal.isNumeric c = true) :
    Operator.ofSymbol? c = none := by
  cases hop : Operator.ofSymbol? c with
  | none => rfl
  | some op =>
    rw [← Operator.symbol_of_ofSymbol? hop] at h
    cases op <;> cases h

theorem ofText_of_isLiteral {s : String} (h : Literal.isLiteral s.toList = true) :
    ofText s = ofLiteral s.toList := by
  unfold ofText
  split
  next c hc =>
    have hn : Literal.isNumeric c = true := by
      rw [hc] at h
      exact Literal.isNumeric_of_isLiteral h c (by simp)
    rw [not_ofSymbol?_of_isNumeric hn, hc]
  next => rfl

theorem ofText_symbol (op : Operator) : ofText op.symbol.toString = .ok (.operator op) := by
  cases op <;> rfl

theorem ofText_text {t : Token} (hw : t.WellFormed) (ht : (t.isNumber || t.isOperator) = true) :
    ofText t.text = .ok t := by
  cases t with
  | number text value =>
    have hl := isLiteral_of_wellFormed hw rfl
    change Literal.isLiteral text.toList = true at hl
    have hp := ofPiece_of_numeric (Literal.isNumeric_of_isLiteral hl)
    change ofText text = _
    rw [ofText_of_isLiteral hl, ← hp]
    exact hw
  | operator op => exact ofText_symbol op
  | lparen => cases ht
  | rparen => cases ht

end Token

theorem wellFormed_of_tokenize {s : String} {ts : List Token} (h : tokenize s = .ok ts)
    {t : Token} (ht : t ∈ ts) : t.WellFormed := by
  have hpieces := mapM_eq_ok_iff.1 h
  obtain ⟨i, hi, rfl⟩ := List.getElem_of_mem ht
  have hlt : i < (Token.pieces (Text.removeBlanks s.toList)).length := by
    rw [hpieces.length_eq]
    exact hi
  exact Token.wellFormed_of_ofPiece (hpieces.get hlt hi)

/-- Postfix order drops the parentheses and keeps what else there is. -/
theorem mem_of_toPostfix {ts out : List Token} (h : toPostfix ts = .ok out) {t : Token}
    (ht : t ∈ out) : t ∈ ts ∧ (t.isNumber || t.isOperator) = true := by
  have hperm := (toPostfix_eq_ok_iff.1 h).perm
  exact List.mem_filter.1 (hperm.mem_iff.1 ht)

namespace Expression

theorem ofText_text_of_compileText {s : String} {rpn : List Token}
    (h : compileText s = .ok rpn) {t : Token} (ht : t ∈ rpn) : Token.ofText t.text = .ok t := by
  rw [compileText_of_not_allBlank (not_allBlank_of_compileText h)] at h
  obtain ⟨ts, hts, hp⟩ := bind_eq_ok_iff.1 h
  obtain ⟨hmem, hkind⟩ := mem_of_toPostfix hp ht
  exact Token.ofText_text (wellFormed_of_tokenize hts hmem) hkind

theorem mapM_ofText_of_compileText {s : String} {rpn : List Token} (h : compileText s = .ok rpn) :
    (rpn.map Token.text).mapM Token.ofText = .ok rpn := by
  rw [mapM_eq_ok_iff, List.forall₂_map_left_iff, List.forall₂_same]
  exact fun t ht => ofText_text_of_compileText h ht

end Expression

end DeskCalculator
