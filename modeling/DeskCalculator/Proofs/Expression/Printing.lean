import DeskCalculator.Proofs.Expression.Refusal
import DeskCalculator.Proofs.Expression.Cutting
import DeskCalculator.Proofs.Expression.Rereading
import DeskCalculator.Proofs.Text.Digits

namespace DeskCalculator

namespace Text

/-- The second text is the first one with blanks put in, at any places. -/
inductive Spaced : List Char → List Char → Prop where
  | nil : Spaced [] []
  | blank {c : Char} {cs ds : List Char} :
    isBlank c = true → Spaced cs ds → Spaced cs (c :: ds)
  | keep {cs ds : List Char} (c : Char) : Spaced cs ds → Spaced (c :: cs) (c :: ds)

variable {cs ds : List Char}

theorem Spaced.removeBlanks_eq (h : Spaced cs ds) : removeBlanks ds = removeBlanks cs := by
  induction h with
  | nil => rfl
  | blank hc _ ih => simpa [removeBlanks, hc] using ih
  | keep c _ ih =>
    simp only [removeBlanks] at ih
    simp [removeBlanks, List.filter_cons, ih]

theorem spaced_removeBlanks (ds : List Char) : Spaced (removeBlanks ds) ds := by
  induction ds with
  | nil => exact .nil
  | cons d ds ih =>
    by_cases hd : isBlank d = true
    · have hr : removeBlanks (d :: ds) = removeBlanks ds := by simp [removeBlanks, hd]
      rw [hr]
      exact .blank hd ih
    · have hr : removeBlanks (d :: ds) = d :: removeBlanks ds := by simp [removeBlanks, hd]
      rw [hr]
      exact .keep d ih

/-- Only what is not blank can be told from a text in which blanks have been put. -/
theorem spaced_iff (h : ∀ c ∈ cs, isBlank c = false) : Spaced cs ds ↔ removeBlanks ds = cs := by
  have hcs : removeBlanks cs = cs := by
    apply List.filter_eq_self.2
    simpa using h
  constructor
  · intro hs
    rw [hs.removeBlanks_eq, hcs]
  · rintro rfl
    exact spaced_removeBlanks ds

end Text

theorem Literal.isBlank_of_isNumeric {c : Char} (h : isNumeric c = true) :
    Text.isBlank c = false := by
  have hc : (0x30 ≤ c.toNat ∧ c.toNat ≤ 0x39) ∨ c.toNat = 0x2E := by
    simp only [isNumeric, Bool.or_eq_true, beq_iff_eq] at h
    obtain hd | rfl := h
    · exact .inl (Text.toNat_of_isDigit hd)
    · exact .inr rfl
  simp only [Text.isBlank, Bool.or_eq_false_iff, Bool.and_eq_false_iff, decide_eq_false_iff_not,
    beq_eq_false_iff_ne]
  omega

namespace Token

/-- A token as it stands for its text: a number has a literal for its text, and the value of that
literal. -/
def Proper : Token → Prop
  | .number text value =>
    IsRun text.toList ∧ HasLiteral text.toList ∧ value = Literal.value text.toList
  | _ => True

variable {t u : Token} {ts : List Token}

theorem isRun_of_isLiteral {cs : List Char} (h : Literal.isLiteral cs = true) : IsRun cs :=
  ⟨Literal.ne_nil_of_isLiteral h, Literal.isNumeric_of_isLiteral h⟩

theorem proper_iff_wellFormed : t.Proper ↔ t.WellFormed := by
  cases t with
  | number text value =>
    constructor
    · intro h
      obtain ⟨hr, hl, rfl⟩ := h
      exact wellFormed_number ((isLiteral_iff hr).2 hl)
    · intro h
      have hl := isLiteral_of_wellFormed h rfl
      change Literal.isLiteral text.toList = true at hl
      have hr := isRun_of_isLiteral hl
      have hown := wellFormed_number hl
      change ofPiece text.toList = _ at h hown
      rw [h] at hown
      simp only [Except.ok.injEq, number.injEq] at hown
      exact ⟨hr, (isLiteral_iff hr).1 hl, hown.2⟩
  | _ => exact ⟨fun _ => wellFormed_of_not_isNumber rfl, fun _ => trivial⟩

/-- The text of a token settles what it is, and its value if it is a number. -/
theorem WellFormed.eq_of_text (ht : t.WellFormed) (hu : u.WellFormed) (h : t.text = u.text) :
    t = u := by
  rw [WellFormed, h, hu] at ht
  exact (Except.ok.inj ht).symm

theorem isRun_text (ht : t.WellFormed) (hn : t.isNumber = true) : IsRun t.text.toList :=
  isRun_of_isLiteral (isLiteral_of_wellFormed ht hn)

theorem not_isBlank_of_text (ht : t.WellFormed) {c : Char} (hc : c ∈ t.text.toList) :
    Text.isBlank c = false := by
  cases hn : t.isNumber with
  | true => exact Literal.isBlank_of_isNumeric ((isRun_text ht hn).2 c hc)
  | false =>
    cases t with
    | number text value => cases hn
    | operator op =>
      have hs : c = op.symbol := by simpa [text, Char.toString] using hc
      rw [hs]
      cases op <;> rfl
    | lparen =>
      have hs : c = '(' := by simpa [text] using hc
      rw [hs]
      rfl
    | rparen =>
      have hs : c = ')' := by simpa [text] using hc
      rw [hs]
      rfl

theorem not_isBlank_of_texts (hw : ∀ t ∈ ts, t.WellFormed) :
    ∀ c ∈ texts ts, Text.isBlank c = false := by
  intro c hc
  obtain ⟨t, ht, hc⟩ := List.mem_flatMap.1 hc
  exact not_isBlank_of_text (hw t ht) hc

/-- Pieces that are cut as far as can be do not put two numbers side by side. -/
theorem numbersApart_of_cuts {cs : List Char} (hw : ∀ t ∈ ts, t.WellFormed)
    (h : Cuts cs (ts.map (·.text.toList))) : NumbersApart ts := by
  have hl := h.longest
  rw [List.isChain_map] at hl
  apply hl.imp_of_mem_imp
  intro a b ha hb hab hn
  by_contra hb'
  exact hab ⟨isRun_text (hw a ha) hn, isRun_text (hw b hb) (by simpa using hb')⟩

end Token

variable {s : String} {ts : List Token}

theorem map_text_of_tokenize (h : tokenize s = .ok ts) :
    ts.map (·.text.toList) = Token.pieces (Text.removeBlanks s.toList) := by
  have hpieces := mapM_eq_ok_iff.1 h
  have htexts : List.Forall₂ (fun p t => p = t.text.toList)
      (Token.pieces (Text.removeBlanks s.toList)) ts :=
    hpieces.imp fun p t ht => (Token.text_of_ofPiece ht).symm
  have heq := List.forall₂_map_right_iff.2 htexts
  rw [List.forall₂_eq_eq_eq] at heq
  exact heq.symm

theorem tokenize_eq_ok_iff : tokenize s = .ok ts ↔
    Text.Spaced (Token.texts ts) s.toList ∧ Token.NumbersApart ts ∧ ∀ t ∈ ts, t.WellFormed := by
  constructor
  · intro h
    have hw : ∀ t ∈ ts, t.WellFormed := fun t ht => wellFormed_of_tokenize h ht
    have hmap := map_text_of_tokenize h
    have hcuts : Token.Cuts (Text.removeBlanks s.toList) (ts.map (·.text.toList)) :=
      Token.cuts_iff_eq_pieces.2 hmap
    refine ⟨?_, Token.numbersApart_of_cuts hw hcuts, hw⟩
    have htexts : Token.texts ts = Text.removeBlanks s.toList := hcuts.joined
    rw [htexts]
    exact Text.spaced_removeBlanks s.toList
  · intro h
    obtain ⟨hs, ha, hw⟩ := h
    have hblanks := (Text.spaced_iff (Token.not_isBlank_of_texts hw)).1 hs
    exact tokenize_of_texts hw ha hblanks

/-- Tokens and their texts. A text that has tokens is their texts with blanks put in, no two of
them that stand side by side are numbers, and what a token is and which value it has shows in its
text. Tokens that are proper and apart are found again in their texts, wherever blanks are put in.
So a text has the same outcome as any other with the same characters besides blanks. -/
theorem tokenize_printed :
    (∀ s ts, tokenize s = .ok ts → Token.texts ts = Text.removeBlanks s.toList ∧
      Token.NumbersApart ts ∧ ∀ t ∈ ts, t.Proper) ∧
    (∀ s s' ts ts', tokenize s = .ok ts → tokenize s' = .ok ts' →
      ∀ t ∈ ts, ∀ u ∈ ts', t.text = u.text → t = u) ∧
    (∀ s ts, (∀ t ∈ ts, t.Proper) → Token.NumbersApart ts →
      Text.Spaced (Token.texts ts) s.toList → tokenize s = .ok ts) ∧
    ∀ s s', Text.removeBlanks s.toList = Text.removeBlanks s'.toList →
      tokenize s = tokenize s' := by
  refine ⟨?_, ?_, ?_, ?_⟩
  · intro s ts h
    obtain ⟨hs, ha, hw⟩ := tokenize_eq_ok_iff.1 h
    have htexts := (Text.spaced_iff (Token.not_isBlank_of_texts hw)).1 hs
    exact ⟨htexts.symm, ha, fun t ht => Token.proper_iff_wellFormed.2 (hw t ht)⟩
  · intro s s' ts ts' h h' t ht u hu htext
    have hwt : t.WellFormed := wellFormed_of_tokenize h ht
    have hwu : u.WellFormed := wellFormed_of_tokenize h' hu
    exact hwt.eq_of_text hwu htext
  · intro s ts hp ha hs
    have hw : ∀ t ∈ ts, t.WellFormed := fun t ht => Token.proper_iff_wellFormed.1 (hp t ht)
    exact tokenize_eq_ok_iff.2 ⟨hs, ha, hw⟩
  · intro s s' h
    exact tokenize_congr h

/-- Blanks inside a number do not cut it. -/
theorem tokenize_printed_product :
    let ts : List Token := [.number "1.5" (Literal.value "1.5".toList), .operator .mul, .lparen,
      .number "2" (Literal.value "2".toList), .rparen]
    Token.NumbersApart ts ∧ Text.Spaced (Token.texts ts) " 1 .5\t*( 2)".toList ∧
      tokenize " 1 .5\t*( 2)" = .ok ts := by
  intro ts
  have hfraction : (Token.number "1.5" (Literal.value "1.5".toList)).Proper :=
    Token.proper_iff_wellFormed.2 (Token.wellFormed_number (by decide +kernel))
  have hwhole : (Token.number "2" (Literal.value "2".toList)).Proper :=
    Token.proper_iff_wellFormed.2 (Token.wellFormed_number (by decide +kernel))
  have hproper : ∀ t ∈ ts, t.Proper := by
    simp only [ts, List.forall_mem_cons]
    exact ⟨hfraction, trivial, trivial, hwhole, trivial, by simp⟩
  have hapart : Token.NumbersApart ts := by simp [ts, Token.NumbersApart, Token.isNumber]
  have htexts : Token.texts ts = Text.removeBlanks " 1 .5\t*( 2)".toList := by decide +kernel
  have hspaced : Text.Spaced (Token.texts ts) " 1 .5\t*( 2)".toList := by
    rw [htexts]
    exact Text.spaced_removeBlanks _
  exact ⟨hapart, hspaced, tokenize_printed.2.2.1 _ ts hproper hapart hspaced⟩

end DeskCalculator
