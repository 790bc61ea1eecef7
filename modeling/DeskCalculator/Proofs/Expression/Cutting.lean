import DeskCalculator.Proofs.Expression.Scanning

namespace DeskCalculator

namespace Token

def IsRun (p : List Char) : Prop := p ≠ [] ∧ ∀ c ∈ p, Literal.isNumeric c = true

def IsPiece (p : List Char) : Prop := IsRun p ∨ ∃ c, p = [c] ∧ Literal.isNumeric c = false

/-- The pieces make up the characters: longest runs of numeric ones, and the others one by one. -/
structure Cuts (cs : List Char) (ps : List (List Char)) : Prop where
  joined : ps.flatten = cs
  kind : ∀ p ∈ ps, IsPiece p
  longest : ps.IsChain fun p q => ¬ (IsRun p ∧ IsRun q)

theorem isRun_singleton_iff {c : Char} : IsRun [c] ↔ Literal.isNumeric c = true := by
  simp [IsRun]

theorem isRun_cons_cons_iff {c d : Char} {run : List Char} :
    IsRun (c :: d :: run) ↔ Literal.isNumeric c = true ∧ IsRun (d :: run) := by
  simp [IsRun]

theorem isPiece_singleton (c : Char) : IsPiece [c] := by
  cases hc : Literal.isNumeric c with
  | true => exact .inl (isRun_singleton_iff.2 hc)
  | false => exact .inr ⟨c, rfl, hc⟩

namespace Cuts

variable {c d : Char} {cs run : List Char} {p : List Char} {ps rest : List (List Char)}

theorem tail (h : Cuts cs (p :: ps)) : Cuts ps.flatten ps :=
  ⟨rfl, fun q hq => h.kind q (List.mem_cons_of_mem _ hq), List.isChain_of_isChain_cons h.longest⟩

theorem isRun_of_numeric (h : Cuts cs ((d :: run) :: rest)) (hd : Literal.isNumeric d = true) :
    IsRun (d :: run) := by
  obtain hr | ⟨e, he, hn⟩ := h.kind (d :: run) (by simp)
  · exact hr
  · cases he
    rw [hd] at hn
    cases hn

/-- A numeric character in front of a run makes the run longer. -/
theorem lengthen (h : Cuts cs ((d :: run) :: rest)) (hc : Literal.isNumeric c = true)
    (hd : Literal.isNumeric d = true) : Cuts (c :: cs) ((c :: d :: run) :: rest) where
  joined := by rw [← h.joined]; rfl
  kind := by
    have hrun := isRun_cons_cons_iff.2 ⟨hc, h.isRun_of_numeric hd⟩
    exact List.forall_mem_cons.2 ⟨.inl hrun, fun q hq => h.kind q (List.mem_cons_of_mem _ hq)⟩
  longest := by
    have hl := h.longest
    cases rest with
    | nil => exact .singleton _
    | cons q rest =>
      rw [List.isChain_cons_cons] at hl ⊢
      exact ⟨fun hr => hl.1 ⟨h.isRun_of_numeric hd, hr.2⟩, hl.2⟩

/-- Any other character in front is a piece of its own. -/
theorem prepend (h : Cuts cs ps) (hc : ∀ q ∈ ps.head?, ¬ (IsRun [c] ∧ IsRun q)) :
    Cuts (c :: cs) ([c] :: ps) where
  joined := by rw [← h.joined]; rfl
  kind := List.forall_mem_cons.2 ⟨isPiece_singleton c, h.kind⟩
  longest := List.isChain_cons.2 ⟨hc, h.longest⟩

/-- Where the first piece is no run, the characters do not begin with a numeric one. -/
theorem head?_not_numeric (h : Cuts cs ps) (hps : ∀ q ∈ ps.head?, ¬ IsRun q) :
    ∀ d ∈ cs.head?, Literal.isNumeric d = false := by
  intro d hd
  rw [← h.joined] at hd
  cases ps with
  | nil => cases hd
  | cons q ps =>
    obtain hr | ⟨e, rfl, he⟩ := h.kind q (by simp)
    · exact absurd hr (hps q rfl)
    · cases hd
      exact he

theorem eq_pieces (h : Cuts cs ps) : ps = pieces cs := by
  induction ps generalizing cs with
  | nil =>
    rw [← h.joined]
    rfl
  | cons p ps ih =>
    rw [← h.joined, List.flatten_cons]
    obtain ⟨hne, hall⟩ | ⟨c, rfl, hc⟩ := h.kind p (by simp)
    · have hnext : ∀ q ∈ ps.head?, ¬ IsRun q :=
        fun q hq hr => (List.isChain_cons.1 h.longest).1 q hq ⟨⟨hne, hall⟩, hr⟩
      rw [pieces_run hne hall (h.tail.head?_not_numeric hnext), ← ih h.tail]
    · rw [List.singleton_append, pieces_cons_of_not_numeric hc, ← ih h.tail]

end Cuts

theorem cuts_pieces (cs : List Char) : Cuts cs (pieces cs) := by
  induction cs with
  | nil => exact ⟨rfl, by simp [pieces], .nil⟩
  | cons c cs ih =>
    rw [pieces]
    split
    next d run rest hp =>
      rw [hp] at ih
      split_ifs with hcd
      · rw [Bool.and_eq_true] at hcd
        exact ih.lengthen hcd.1 hcd.2
      · apply ih.prepend
        intro q hq hr
        cases hq
        rw [isRun_singleton_iff] at hr
        exact hcd (by simp [hr.1, hr.2.2 d (by simp)])
    next hp =>
      apply ih.prepend
      intro q hq hr
      obtain ⟨rest, hrest⟩ := List.head?_eq_some_iff.1 hq
      cases q with
      | nil => exact hr.2.1 rfl
      | cons d run => exact hp d run rest hrest

theorem cuts_iff_eq_pieces {cs : List Char} {ps : List (List Char)} :
    Cuts cs ps ↔ ps = pieces cs := by
  constructor
  · exact Cuts.eq_pieces
  · rintro rfl
    exact cuts_pieces cs

def HasLiteral (p : List Char) : Prop := (∃ c ∈ p, c.isDigit = true) ∧ p.count '.' ≤ 1

/-- The characters that stand for tokens by themselves. -/
def signs : List Char := ['+', '-', '*', '/', '(', ')']

/-- Runs with a digit and at most one point stand for tokens, and so do the signs. -/
def Acceptable (p : List Char) : Prop :=
  (IsRun p → HasLiteral p) ∧ ∀ c, p = [c] → Literal.isNumeric c = false → c ∈ signs

/-- The fault of a piece that stands for no token. -/
inductive FaultOf : List Char → Fault → Prop where
  | literal {p : List Char} : IsRun p → ¬ HasLiteral p → FaultOf p .badLiteral
  | symbol {c : Char} :
    Literal.isNumeric c = false → c ∉ signs → FaultOf [c] (.unsupportedSymbol c)

theorem isLiteral_iff {p : List Char} (h : IsRun p) :
    Literal.isLiteral p = true ↔ HasLiteral p := by
  have hall : p.all Literal.isNumeric = true := List.all_eq_true.2 h.2
  simp [Literal.isLiteral, hall, HasLiteral]

theorem exists_ofSymbol_iff {c : Char} : (∃ t, ofSymbol c = .ok t) ↔ c ∈ signs := by
  constructor
  · intro h
    obtain ⟨t, h⟩ := h
    unfold ofSymbol at h
    split_ifs at h with hopen hclose
    · simp [hopen, signs]
    · simp [hclose, signs]
    · split at h
      next op hop =>
        rw [← Operator.symbol_of_ofSymbol? hop]
        cases op <;> decide
      next => cases h
  · intro h
    simp only [signs, List.mem_cons, List.not_mem_nil, or_false] at h
    obtain rfl | rfl | rfl | rfl | rfl | rfl := h <;> exact ⟨_, rfl⟩

theorem ofSymbol_eq_error_iff {c : Char} {f : Fault} :
    ofSymbol c = .error f ↔ c ∉ signs ∧ f = .unsupportedSymbol c := by
  rw [← exists_ofSymbol_iff]
  unfold ofSymbol
  split_ifs
  · simp
  · simp
  · split
    · simp
    · simp [eq_comm]

/-- A piece that has no token has the fault of its kind. -/
theorem ofPiece_eq_error_iff {p : List Char} {f : Fault} (hp : IsPiece p) :
    ofPiece p = .error f ↔ FaultOf p f := by
  obtain hr | ⟨c, rfl, hc⟩ := hp
  · rw [ofPiece_of_numeric hr.2, ofLiteral]
    constructor
    · intro h
      split_ifs at h with hl
      cases h
      exact .literal hr fun hl' => hl ((isLiteral_iff hr).2 hl')
    · intro h
      cases h with
      | literal _ hl => exact if_neg fun hl' => hl ((isLiteral_iff hr).1 hl')
      | symbol hc _ => simp [isRun_singleton_iff, hc] at hr
  · rw [ofPiece_of_not_numeric hc, ofSymbol_eq_error_iff]
    constructor
    · intro h
      obtain ⟨hmem, rfl⟩ := h
      exact .symbol hc hmem
    · intro h
      cases h with
      | literal hr _ => simp [isRun_singleton_iff, hc] at hr
      | symbol _ hmem => exact ⟨hmem, rfl⟩

theorem acceptable_iff {p : List Char} : Acceptable p ↔ ∀ f, ¬ FaultOf p f := by
  constructor
  · intro h f hf
    cases hf with
    | literal hr hl => exact hl (h.1 hr)
    | symbol hc hmem => exact hmem (h.2 _ rfl hc)
  · intro h
    constructor
    · intro hr
      by_contra hl
      exact h _ (.literal hr hl)
    · rintro c rfl hc
      by_contra hmem
      exact h _ (.symbol hc hmem)

theorem exists_ofPiece_iff {p : List Char} (hp : IsPiece p) :
    (∃ t, ofPiece p = .ok t) ↔ Acceptable p := by
  simp only [acceptable_iff, ← ofPiece_eq_error_iff hp]
  cases ofPiece p <;> simp

theorem exists_mapM_ofPiece_iff {cs : List Char} :
    (∃ ts, (pieces cs).mapM ofPiece = .ok ts) ↔ ∀ p ∈ pieces cs, Acceptable p := by
  rw [exists_mapM_eq_ok_iff]
  exact forall₂_congr fun p hp => exists_ofPiece_iff ((cuts_pieces cs).kind p hp)

/-- The leftmost piece that is not acceptable settles the fault. -/
theorem mapM_ofPiece_eq_error_iff {cs : List Char} {f : Fault} :
    (pieces cs).mapM ofPiece = .error f ↔ ∃ front p back, pieces cs = front ++ p :: back ∧
      (∀ q ∈ front, Acceptable q) ∧ FaultOf p f := by
  rw [mapM_eq_error_iff]
  refine exists₃_congr fun front p back => and_congr_right fun hcs => ?_
  have hkind := (cuts_pieces cs).kind
  rw [hcs] at hkind
  exact and_congr (forall₂_congr fun q hq => exists_ofPiece_iff (hkind q (by simp [hq])))
    (ofPiece_eq_error_iff (hkind p (by simp)))

end Token

/-- The fault of a text stands, whatever follows behind a character that belongs to no run. -/
theorem tokenize_append_of_error {s u : String} {c : Char} {cs : List Char} {f : Fault}
    (h : tokenize s = .error f) (hu : u.toList = c :: cs) (hb : Text.isBlank c = false)
    (hc : Literal.isNumeric c = false) : tokenize (s ++ u) = .error f := by
  have hblanks : Text.removeBlanks (c :: cs) = c :: Text.removeBlanks cs :=
    List.filter_cons_of_pos (by simp [hb])
  rw [tokenize_eq_scan] at h ⊢
  rw [String.toList_append, Text.removeBlanks_append, hu, hblanks]
  exact Token.scan_append_of_error hc _ h

/-- The outcome of cutting a text into tokens. Freed of its blanks, the text has one cut into
pieces. It has tokens when each piece is acceptable, and otherwise the fault of the leftmost one
that is not, which no text that begins with a character outside the runs undoes from behind. -/
theorem tokenize_outcome (s : String) :
    ∃ ps, (∀ qs, Token.Cuts (Text.removeBlanks s.toList) qs ↔ qs = ps) ∧
      ((∃ ts, tokenize s = .ok ts) ↔ ∀ p ∈ ps, Token.Acceptable p) ∧
      (∀ f, tokenize s = .error f ↔ ∃ front p back, ps = front ++ p :: back ∧
        (∀ q ∈ front, Token.Acceptable q) ∧ Token.FaultOf p f) ∧
      ∀ f, tokenize s = .error f → ∀ u c cs, u.toList = c :: cs → Text.isBlank c = false →
        Literal.isNumeric c = false → tokenize (s ++ u) = .error f := by
  refine ⟨Token.pieces (Text.removeBlanks s.toList), fun qs => Token.cuts_iff_eq_pieces,
    Token.exists_mapM_ofPiece_iff, fun f => Token.mapM_ofPiece_eq_error_iff, ?_⟩
  intro f h u c cs hu hb hc
  exact tokenize_append_of_error h hu hb hc

example : tokenize "1.2 .3&" = .error .badLiteral := by decide +kernel

end DeskCalculator
