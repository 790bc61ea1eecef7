import DeskCalculator.Proofs.Expression.Placement
import DeskCalculator.Proofs.Outcome

namespace DeskCalculator

namespace Literal

theorem isNumeric_of_isLiteral {cs : List Char} (h : isLiteral cs = true) :
    ∀ c ∈ cs, isNumeric c = true := by
  simp only [isLiteral, Bool.and_eq_true, List.all_eq_true] at h
  exact h.1.1

theorem ne_nil_of_isLiteral {cs : List Char} (h : isLiteral cs = true) : cs ≠ [] := by
  intro he
  simp [he, isLiteral] at h

end Literal

namespace Token

theorem ofPiece_of_numeric {cs : List Char} (h : ∀ c ∈ cs, Literal.isNumeric c = true) :
    ofPiece cs = ofLiteral cs := by
  unfold ofPiece
  split
  next c => rw [if_pos (h c (by simp))]
  next => rfl

theorem wellFormed_number {text : String} (h : Literal.isLiteral text.toList = true) :
    (Token.number text (Literal.value text.toList)).WellFormed := by
  have hp := ofPiece_of_numeric (Literal.isNumeric_of_isLiteral h)
  change ofPiece text.toList = _
  rw [hp, ofLiteral, if_pos h, String.ofList_toList]

theorem wellFormed_of_not_isNumber {t : Token} (h : t.isNumber = false) : t.WellFormed := by
  cases t with
  | number text value => simp [isNumber] at h
  | operator op => cases op <;> rfl
  | lparen => rfl
  | rparen => rfl

/-- Every token other than a number is a single character, and not a numeric one. -/
theorem text_of_not_isNumber {t : Token} (h : t.isNumber = false) :
    ∃ c, t.text.toList = [c] ∧ Literal.isNumeric c = false := by
  cases t with
  | number text value => simp [isNumber] at h
  | operator op => cases op <;> exact ⟨_, rfl, rfl⟩
  | lparen => exact ⟨_, rfl, rfl⟩
  | rparen => exact ⟨_, rfl, rfl⟩

theorem not_isNumber_of_ofSymbol {c : Char} {t : Token} (h : ofSymbol c = .ok t) :
    t.isNumber = false := by
  unfold ofSymbol at h
  split_ifs at h
  · cases h; rfl
  · cases h; rfl
  · split at h <;> cases h
    rfl

theorem isLiteral_of_ofLiteral {cs : List Char} {t : Token} (h : ofLiteral cs = .ok t) :
    Literal.isLiteral cs = true := by
  unfold ofLiteral at h
  split_ifs at h with hl
  exact hl

theorem isLiteral_of_wellFormed {t : Token} (hw : t.WellFormed) (ht : t.isNumber = true) :
    Literal.isLiteral t.text.toList = true := by
  unfold WellFormed ofPiece at hw
  split at hw
  next c hc =>
    split_ifs at hw
    · rw [hc]
      exact isLiteral_of_ofLiteral hw
    · rw [not_isNumber_of_ofSymbol hw] at ht
      cases ht
  next => exact isLiteral_of_ofLiteral hw

theorem pieces_cons_of_not_numeric {c : Char} (h : Literal.isNumeric c = false)
    (cs : List Char) : pieces (c :: cs) = [c] :: pieces cs := by
  rw [pieces]
  split
  next d run rest hp => simp [h, hp]
  next rest => rfl

theorem head?_pieces (cs : List Char) : ((pieces cs).head?.bind List.head?) = cs.head? := by
  cases cs with
  | nil => rfl
  | cons c cs =>
    rw [pieces]
    split
    next d run rest hp => split_ifs <;> rfl
    next rest => rfl

/-- A run of numeric characters is one piece, where the text does not go on with another one. -/
theorem pieces_run {run : List Char} (hr : run ≠ []) (hn : ∀ c ∈ run, Literal.isNumeric c = true)
    {cs : List Char} (hc : ∀ d ∈ cs.head?, Literal.isNumeric d = false) :
    pieces (run ++ cs) = run :: pieces cs := by
  induction run with
  | nil => exact absurd rfl hr
  | cons c run ih =>
    have hcn : Literal.isNumeric c = true := hn c (by simp)
    rw [List.cons_append, pieces]
    cases run with
    | nil =>
      -- the next piece, if there is one, begins with the character that ends the run
      have hh := head?_pieces cs
      rw [List.nil_append]
      split
      next d run rest hp =>
        rw [hp] at hh
        have hd : Literal.isNumeric d = false := hc d (by rw [← hh]; rfl)
        simp [hd, hp]
      next rest => rfl
    | cons d run =>
      have hdn : Literal.isNumeric d = true := hn d (by simp)
      rw [ih (by simp) (fun e he => hn e (List.mem_cons_of_mem _ he))]
      simp [hcn, hdn]

/-- No number stands right after another one, so the texts of the tokens keep apart. -/
def NumbersApart (ts : List Token) : Prop :=
  ts.IsChain fun a b => a.isNumber = true → b.isNumber = false

/-- The texts of tokens, one after the other. -/
def texts (ts : List Token) : List Char := ts.flatMap (·.text.toList)

theorem texts_cons (t : Token) (ts : List Token) :
    texts (t :: ts) = t.text.toList ++ texts ts := List.flatMap_cons

theorem pieces_texts {ts : List Token} (hw : ∀ t ∈ ts, t.WellFormed) (ha : NumbersApart ts) :
    pieces (texts ts) = ts.map (·.text.toList) := by
  induction ts with
  | nil => rfl
  | cons t ts ih =>
    have hw' : ∀ u ∈ ts, u.WellFormed := fun u hu => hw u (List.mem_cons_of_mem _ hu)
    have hrest := ih hw' (List.isChain_of_isChain_cons ha)
    rw [texts_cons, List.map_cons, ← hrest]
    cases ht : t.isNumber with
    | false =>
      obtain ⟨c, hc, hn⟩ := text_of_not_isNumber ht
      rw [hc]
      exact pieces_cons_of_not_numeric hn _
    | true =>
      have hl := isLiteral_of_wellFormed (hw t (by simp)) ht
      apply pieces_run (Literal.ne_nil_of_isLiteral hl) (Literal.isNumeric_of_isLiteral hl)
      intro d hd
      cases ts with
      | nil => simp [texts] at hd
      | cons u us =>
        have hu : u.isNumber = false := (List.isChain_cons_cons.1 ha).1 ht
        obtain ⟨c, hc, hn⟩ := text_of_not_isNumber hu
        rw [texts_cons, hc] at hd
        have hcd : c = d := by simpa using hd
        rw [← hcd]
        exact hn

end Token

theorem tokenize_of_texts {s : String} {ts : List Token} (hw : ∀ t ∈ ts, t.WellFormed)
    (ha : Token.NumbersApart ts) (hs : Text.removeBlanks s.toList = Token.texts ts) :
    tokenize s = .ok ts := by
  rw [tokenize, hs, Token.pieces_texts hw ha, mapM_eq_ok_iff, List.forall₂_map_left_iff,
    List.forall₂_same]
  exact hw

end DeskCalculator
