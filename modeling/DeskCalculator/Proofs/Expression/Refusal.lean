import DeskCalculator.Expression.Evaluation
import DeskCalculator.Proofs.Outcome
import DeskCalculator.Proofs.Text.Trimming

namespace DeskCalculator

namespace Fault

/-- Where a fault comes up. -/
inductive Stage where
  | entry
  | cutting
  | ordering
  | calculation
  | session
  deriving DecidableEq

def stage : Fault → Stage
  | .blankExpression => .entry
  | .badLiteral => .cutting
  | .unsupportedSymbol _ => .cutting
  | .unbalanced => .ordering
  | .unexpectedToken _ => .calculation
  | .malformed => .calculation
  | .divisionByZero => .calculation
  | _ => .session

theorem category_of_cutting {f : Fault} (h : f.stage = .cutting) : f.category = .parse := by
  cases f <;> first | rfl | cases h

theorem category_of_calculation {f : Fault} (h : f.stage = .calculation) :
    f.category = .parse ∨ f.category = .division := by
  cases f <;> first | exact .inl rfl | exact .inr rfl | cases h

end Fault

namespace Token

theorem stage_of_ofSymbol {c : Char} {f : Fault} (h : ofSymbol c = .error f) :
    f.stage = .cutting := by
  unfold ofSymbol at h
  split at h
  · cases h
  · split at h
    · cases h
    · split at h
      · cases h
      · cases h
        rfl

theorem stage_of_ofLiteral {cs : List Char} {f : Fault} (h : ofLiteral cs = .error f) :
    f.stage = .cutting := by
  unfold ofLiteral at h
  split at h
  · cases h
  · cases h
    rfl

theorem stage_of_ofPiece {cs : List Char} {f : Fault} (h : ofPiece cs = .error f) :
    f.stage = .cutting := by
  unfold ofPiece at h
  split at h
  · split at h
    · exact stage_of_ofLiteral h
    · exact stage_of_ofSymbol h
  · exact stage_of_ofLiteral h

end Token

theorem stage_of_tokenize {s : String} {f : Fault} (h : tokenize s = .error f) :
    f.stage = .cutting := by
  obtain ⟨piece, -, hp⟩ := exists_of_mapM_eq_error h
  exact Token.stage_of_ofPiece hp

namespace Postfix

theorem unbalanced_of_step {st : Stack} {t : Token} {f : Fault} (h : step st t = .error f) :
    f = .unbalanced := by
  cases t with
  | rparen =>
    rw [step] at h
    split at h <;> cases h
    rfl
  | _ => cases h

theorem unbalanced_of_drain {st : Stack} {f : Fault} (h : drain st = .error f) :
    f = .unbalanced := by
  induction st with
  | nil => cases h
  | cons p st ih =>
    cases p with
    | operator op => exact ih (map_eq_error_iff.1 h)
    | paren =>
      cases h
      rfl

theorem unbalanced_of_convert {st : Stack} {ts : List Token} {f : Fault}
    (h : convert st ts = .error f) : f = .unbalanced := by
  induction ts generalizing st with
  | nil => exact unbalanced_of_drain h
  | cons t ts ih =>
    obtain hs | ⟨r, -, h⟩ := bind_eq_error_iff.1 h
    · exact unbalanced_of_step hs
    · obtain hr | ⟨rest, -, h⟩ := bind_eq_error_iff.1 h
      · exact ih hr
      · cases h

theorem stage_of_evalStep {st : List Float} {t : Token} {f : Fault}
    (h : evalStep st t = .error f) : f.stage = .calculation := by
  cases t with
  | number text value => cases h
  | operator op =>
    rw [evalStep.eq_def] at h
    dsimp only at h
    split at h
    · obtain ⟨-, -, rfl⟩ := (op.apply_eq_error_iff _ _ f).1 (map_eq_error_iff.1 h)
      rfl
    · cases h
      rfl
  | lparen =>
    cases h
    rfl
  | rparen =>
    cases h
    rfl

theorem stage_of_evalFrom {st : List Float} {ts : List Token} {f : Fault}
    (h : evalFrom st ts = .error f) : f.stage = .calculation := by
  induction ts generalizing st with
  | nil => cases h
  | cons t ts ih =>
    rw [evalFrom, List.foldlM_cons] at h
    obtain ht | ⟨st₁, -, hts⟩ := bind_eq_error_iff.1 h
    · exact stage_of_evalStep ht
    · exact ih hts

end Postfix

theorem stage_of_evalPostfix {ts : List Token} {f : Fault} (h : evalPostfix ts = .error f) :
    f.stage = .calculation := by
  unfold evalPostfix at h
  split at h
  · cases h
  · cases h
    rfl
  next f' hst =>
    cases h
    exact Postfix.stage_of_evalFrom hst

theorem category_of_evalPostfix {ts : List Token} {f : Fault} (h : evalPostfix ts = .error f) :
    f.category = .parse ∨ f.category = .division :=
  Fault.category_of_calculation (stage_of_evalPostfix h)

namespace Expression

theorem compileText_of_allBlank {s : String} (hs : Text.allBlank s = true) :
    compileText s = .error .blankExpression := if_pos hs

theorem compileText_of_not_allBlank {s : String} (hs : Text.allBlank s = false) :
    compileText s = tokenize s >>= toPostfix := by
  rw [compileText, hs]
  rfl

theorem not_allBlank_of_compileText {s : String} {rpn : List Token} (h : compileText s = .ok rpn) :
    Text.allBlank s = false := by
  cases hs : Text.allBlank s with
  | false => rfl
  | true =>
    rw [compileText_of_allBlank hs] at h
    cases h

/-- A text that is not blank is refused for its pieces or for its parentheses. -/
theorem fault_of_compileText {s : String} {f : Fault} (hs : Text.allBlank s = false)
    (h : compileText s = .error f) : f.stage = .cutting ∨ f = .unbalanced := by
  rw [compileText_of_not_allBlank hs] at h
  obtain ht | ⟨ts, -, hc⟩ := bind_eq_error_iff.1 h
  · exact .inl (stage_of_tokenize ht)
  · exact .inr (Postfix.unbalanced_of_convert hc)

theorem category_of_compileText {s : String} {f : Fault} (h : compileText s = .error f) :
    f.category = .parse := by
  cases hs : Text.allBlank s with
  | true =>
    rw [compileText_of_allBlank hs] at h
    cases h
    rfl
  | false =>
    obtain hc | rfl := fault_of_compileText hs h
    · exact Fault.category_of_cutting hc
    · rfl

end Expression

theorem tokenize_congr {s t : String}
    (h : Text.removeBlanks s.toList = Text.removeBlanks t.toList) : tokenize s = tokenize t := by
  rw [tokenize, tokenize, h]

namespace Expression

theorem compileText_trim (s : String) : compileText (Text.trim s) = compileText s := by
  rw [compileText, compileText, Text.allBlank_trim, tokenize_congr (Text.removeBlanks_trim s)]

theorem category_of_evaluate {e : Json.Document} {f : Fault} (h : evaluate e = .error f) :
    f.category = .parse ∨ f.category = .division := by
  obtain hc | ⟨rpn, -, hv⟩ := bind_eq_error_iff.1 h
  · cases e with
    | text text => exact .inl (category_of_compileText hc)
    | _ =>
      cases hc
      exact .inl rfl
  · exact category_of_evalPostfix hv

theorem evaluate_trim (s : String) :
    evaluate (.text (Text.trim s)) = evaluate (.text s) := by
  rw [evaluate, evaluate, compile, compile, compileText_trim]

theorem evaluate_of_compileText {s : String} {rpn : List Token} (h : compileText s = .ok rpn) :
    evaluate (.text s) = evalPostfix rpn := by
  rw [evaluate, compile, h]
  rfl

end Expression

end DeskCalculator
