import DeskCalculator.Proofs.Expression.Lexing

namespace DeskCalculator

namespace Token

/-- The number that the characters collected so far make, if there are any. -/
def numberOf : List Char → Except Fault (List Token)
  | [] => .ok []
  | collected => (ofLiteral collected).map ([·])

def scan (collected : List Char) : List Char → Except Fault (List Token)
  | [] => numberOf collected
  | c :: cs =>
    if Literal.isNumeric c then scan (collected ++ [c]) cs
    else do
      let number ← numberOf collected
      let t ← ofSymbol c
      let rest ← scan [] cs
      return number ++ t :: rest

variable {collected cs : List Char} {c : Char} {f : Fault}

theorem scan_of_numeric (h : Literal.isNumeric c = true) (collected cs : List Char) :
    scan collected (c :: cs) = scan (collected ++ [c]) cs := if_pos h

theorem scan_of_not_numeric (h : Literal.isNumeric c = false) (collected cs : List Char) :
    scan collected (c :: cs) = (do
      let number ← numberOf collected
      let t ← ofSymbol c
      let rest ← scan [] cs
      return number ++ t :: rest) := if_neg (by simp [h])

theorem ofPiece_of_not_numeric (h : Literal.isNumeric c = false) : ofPiece [c] = ofSymbol c :=
  if_neg (by simp [h])

/-- A character that is not numeric cuts the pieces before it off from those behind it. -/
theorem pieces_append_of_not_numeric (h : Literal.isNumeric c = false) (xs cs : List Char) :
    pieces (xs ++ c :: cs) = pieces xs ++ [c] :: pieces cs := by
  induction xs with
  | nil => exact pieces_cons_of_not_numeric h cs
  | cons x xs ih =>
    rw [List.cons_append, pieces, ih, pieces]
    cases hxs : pieces xs with
    | nil => simp [h]
    | cons p rest =>
      cases p with
      | nil => exact absurd rfl (pieces_ne_nil (by simp [hxs] : [] ∈ pieces xs))
      | cons d run =>
        change (if _ then _ else _) = (if _ then _ else _) ++ _
        split_ifs <;> rfl

theorem numberOf_eq_mapM (h : ∀ c ∈ collected, Literal.isNumeric c = true) :
    numberOf collected = (pieces collected).mapM ofPiece := by
  cases collected with
  | nil => rfl
  | cons d ds =>
    have hpieces : pieces (d :: ds ++ []) = (d :: ds) :: pieces [] :=
      pieces_run (List.cons_ne_nil d ds) h (by simp)
    rw [List.append_nil] at hpieces
    rw [hpieces, List.mapM_cons, ofPiece_of_numeric h, numberOf]
    · cases ofLiteral (d :: ds) <;> rfl
    · simp

theorem scan_eq_mapM (h : ∀ c ∈ collected, Literal.isNumeric c = true) :
    scan collected cs = (pieces (collected ++ cs)).mapM ofPiece := by
  induction cs generalizing collected with
  | nil =>
    rw [List.append_nil]
    exact numberOf_eq_mapM h
  | cons c cs ih =>
    cases hc : Literal.isNumeric c with
    | true =>
      have hall : ∀ d ∈ collected ++ [c], Literal.isNumeric d = true := by
        intro d hd
        obtain hd | hd := List.mem_append.1 hd
        · exact h d hd
        · rw [List.mem_singleton.1 hd]
          exact hc
      rw [scan_of_numeric hc, ih hall, List.append_assoc]
      rfl
    | false =>
      rw [scan_of_not_numeric hc, numberOf_eq_mapM h, ih (by simp),
        pieces_append_of_not_numeric hc, List.mapM_append, List.mapM_cons,
        ofPiece_of_not_numeric hc]
      simp

/-- A character that ends a run shows no other fault than the end of the text. -/
theorem scan_append_of_error (hc : Literal.isNumeric c = false) (ds : List Char)
    (h : scan collected cs = .error f) : scan collected (cs ++ c :: ds) = .error f := by
  induction cs generalizing collected with
  | nil =>
    rw [List.nil_append, scan_of_not_numeric hc]
    exact bind_eq_error_iff.2 (.inl h)
  | cons d cs ih =>
    cases hd : Literal.isNumeric d with
    | true =>
      rw [scan_of_numeric hd] at h
      rw [List.cons_append, scan_of_numeric hd]
      exact ih h
    | false =>
      rw [scan_of_not_numeric hd] at h
      rw [List.cons_append, scan_of_not_numeric hd]
      obtain h | ⟨number, hn, h⟩ := bind_eq_error_iff.1 h
      · exact bind_eq_error_iff.2 (.inl h)
      · obtain h | ⟨t, ht, h⟩ := bind_eq_error_iff.1 h
        · exact bind_eq_error_iff.2 (.inr ⟨number, hn, bind_eq_error_iff.2 (.inl h)⟩)
        · obtain h | ⟨rest, hr, h⟩ := bind_eq_error_iff.1 h
          · have hrest := ih h
            rw [hn, ht, hrest]
            rfl
          · cases h

end Token

theorem tokenize_eq_scan (s : String) :
    tokenize s = Token.scan [] (Text.removeBlanks s.toList) := by
  rw [tokenize, Token.scan_eq_mapM (by simp), List.nil_append]

end DeskCalculator
