import DeskCalculator.Proofs.Expression.Printing
import DeskCalculator.Proofs.Number.Double

namespace DeskCalculator

namespace Literal

/-- The exact number that a literal stands for. Digits are read in base ten, and each one behind
the point divides by ten once more. -/
inductive Denotes : List Char → ℚ → Prop where
  | whole {ds : List Char} : ds ≠ [] → (∀ c ∈ ds, c.isDigit = true) →
    Denotes ds (Nat.ofDigits 10 (ds.map Text.digitValue).reverse : Nat)
  | point {ds es : List Char} : ds ++ es ≠ [] → (∀ c ∈ ds ++ es, c.isDigit = true) →
    Denotes (ds ++ '.' :: es)
      ((Nat.ofDigits 10 ((ds ++ es).map Text.digitValue).reverse : Nat) / 10 ^ es.length)

variable {cs ds es : List Char} {q : ℚ}

theorem ne_point_of_digits (h : ∀ c ∈ ds, c.isDigit = true) : ∀ c ∈ ds, (c != '.') = true := by
  intro c hc
  rw [bne_iff_ne]
  rintro rfl
  exact absurd (h '.' hc) (by decide)

theorem places_digits (h : ∀ c ∈ ds, c.isDigit = true) : places ds = 0 := by
  rw [places, List.dropWhile_eq_nil_iff.2 (ne_point_of_digits h)]
  rfl

theorem places_point (h : ∀ c ∈ ds, c.isDigit = true) : places (ds ++ '.' :: es) = es.length := by
  rw [places, List.dropWhile_append_of_pos (ne_point_of_digits h)]
  rfl

theorem numerator_point (h : ∀ c ∈ ds ++ es, c.isDigit = true) :
    numerator (ds ++ '.' :: es) = Text.digitsValue (ds ++ es) := by
  have hpoint : ('.' :: es).filter Char.isDigit = es.filter Char.isDigit :=
    List.filter_cons_of_neg (by decide)
  rw [numerator, List.filter_append, hpoint, ← List.filter_append, List.filter_eq_self.2 h]

/-- What a literal denotes is the ratio of which its value is read. -/
theorem Denotes.eq_ratio (h : Denotes cs q) :
    q = (numerator cs : ℚ) / (Nat.pow 10 (places cs) : Nat) := by
  cases h with
  | whole _ hd =>
    rw [places_digits hd, numerator, List.filter_eq_self.2 hd, Text.digitsValue_eq_ofDigits]
    simp
  | @point ds es _ hd =>
    have hds : ∀ c ∈ ds, c.isDigit = true := fun c hc => hd c (List.mem_append_left es hc)
    rw [places_point hds, numerator_point hd, Text.digitsValue_eq_ofDigits]
    congr 1
    exact (Nat.cast_pow 10 es.length).symm

theorem Denotes.roundsTo (h : Denotes cs q) : Number.RoundsTo q (value cs).toBits := by
  rw [h.eq_ratio]
  exact Number.roundsTo_nearest (numerator cs) (Nat.pow_pos (by decide))

theorem isNumeric_of_isDigit {c : Char} (h : c.isDigit = true) : isNumeric c = true := by
  rw [isNumeric, h]
  rfl

theorem count_digits (h : ∀ c ∈ ds, c.isDigit = true) : ds.count '.' = 0 := by
  rw [List.count_eq_zero]
  intro hc
  exact absurd (h '.' hc) (by decide)

theorem mem_point_iff {c : Char} : c ∈ ds ++ '.' :: es ↔ c = '.' ∨ c ∈ ds ++ es := by
  rw [List.mem_append, List.mem_cons, List.mem_append]
  exact or_left_comm

theorem count_point (ds es : List Char) :
    (ds ++ '.' :: es).count '.' = (ds ++ es).count '.' + 1 := by
  rw [List.count_append, List.count_cons_self, List.count_append]
  rfl

/-- A run without a point consists of digits. -/
theorem isDigit_of_count_eq_zero (h : ∀ c ∈ cs, isNumeric c = true) (h0 : cs.count '.' = 0) :
    ∀ c ∈ cs, c.isDigit = true := by
  intro c hc
  have hne : c ≠ '.' := by
    rintro rfl
    exact List.count_eq_zero.1 h0 hc
  have hnumeric := h c hc
  rw [isNumeric, Bool.or_eq_true, beq_iff_eq] at hnumeric
  exact hnumeric.resolve_right hne

theorem exists_denotes (hr : Token.IsRun cs) (hl : Token.HasLiteral cs) : ∃ q, Denotes cs q := by
  obtain ⟨hne, hnumeric⟩ := hr
  obtain ⟨⟨d, hmem, hd⟩, hcount⟩ := hl
  by_cases hpoint : '.' ∈ cs
  · obtain ⟨ds, es, rfl⟩ := List.append_of_mem hpoint
    rw [count_point] at hcount
    have hrest : (ds ++ es).count '.' = 0 := by omega
    have hsub : ∀ c ∈ ds ++ es, isNumeric c = true := fun c hc =>
      hnumeric c (mem_point_iff.2 (.inr hc))
    have hdot : d ≠ '.' := by
      rintro rfl
      exact absurd hd (by decide)
    have hdigit : d ∈ ds ++ es := (mem_point_iff.1 hmem).resolve_left hdot
    exact ⟨_, .point (List.ne_nil_of_mem hdigit) (isDigit_of_count_eq_zero hsub hrest)⟩
  · have hdigits := isDigit_of_count_eq_zero hnumeric (List.count_eq_zero.2 hpoint)
    exact ⟨_, .whole hne hdigits⟩

theorem Denotes.isRun (h : Denotes cs q) : Token.IsRun cs := by
  cases h with
  | whole hne hd => exact ⟨hne, fun c hc => isNumeric_of_isDigit (hd c hc)⟩
  | @point ds es _ hd =>
    refine ⟨by simp, ?_⟩
    intro c hc
    obtain rfl | hc := mem_point_iff.1 hc
    · rfl
    · exact isNumeric_of_isDigit (hd c hc)

theorem Denotes.hasLiteral (h : Denotes cs q) : Token.HasLiteral cs := by
  cases h with
  | whole hne hd =>
    obtain ⟨c, hc⟩ := List.exists_mem_of_ne_nil cs hne
    have hcount : cs.count '.' ≤ 1 := by
      rw [count_digits hd]
      omega
    exact ⟨⟨c, hc, hd c hc⟩, hcount⟩
  | @point ds es hne hd =>
    obtain ⟨c, hc⟩ := List.exists_mem_of_ne_nil (ds ++ es) hne
    have hcount : (ds ++ '.' :: es).count '.' ≤ 1 := by
      rw [count_point, count_digits hd]
    exact ⟨⟨c, mem_point_iff.2 (.inr hc), hd c hc⟩, hcount⟩

theorem exists_denotes_iff : (∃ q, Denotes cs q) ↔ Token.IsRun cs ∧ Token.HasLiteral cs := by
  constructor
  · intro h
    obtain ⟨q, hq⟩ := h
    exact ⟨hq.isRun, hq.hasLiteral⟩
  · intro h
    exact exists_denotes h.1 h.2

end Literal

open Literal (Denotes)

theorem tokenize_of_denotes {s : String} {q : ℚ} (h : Denotes s.toList q) :
    tokenize s = .ok [.number s (Literal.value s.toList)] := by
  have hproper : (Token.number s (Literal.value s.toList)).Proper := ⟨h.isRun, h.hasLiteral, rfl⟩
  have hw := Token.proper_iff_wellFormed.1 hproper
  have htexts : Token.texts [.number s (Literal.value s.toList)] = s.toList :=
    List.append_nil s.toList
  apply tokenize_eq_ok_iff.2
  refine ⟨?_, List.isChain_singleton _, by simpa using hw⟩
  rw [htexts]
  have hblanks : ∀ c ∈ s.toList, Text.isBlank c = false := fun c hc =>
    Literal.isBlank_of_isNumeric (h.isRun.2 c hc)
  apply (Text.spaced_iff hblanks).2
  apply List.filter_eq_self.2
  simpa using hblanks

/-- Numbers and their values. The runs with a digit and at most one point are the texts that
denote a number; such a text is a token by itself. In any text that has tokens, the text of each
number denotes one, and its value is the double to which that number is rounded. -/
theorem tokenize_literal_rounded :
    (∀ cs, (∃ q, Denotes cs q) ↔ Token.IsRun cs ∧ Token.HasLiteral cs) ∧
    (∀ s q, Denotes s.toList q → ∃ value, tokenize s = .ok [.number s value]) ∧
    ∀ s ts text value, tokenize s = .ok ts → .number text value ∈ ts →
      (∃ q, Denotes text.toList q) ∧
      ∀ q, Denotes text.toList q → Number.RoundsTo q value.toBits := by
  refine ⟨?_, ?_, ?_⟩
  · intro cs
    exact Literal.exists_denotes_iff
  · intro s q h
    exact ⟨_, tokenize_of_denotes h⟩
  · intro s ts text value hs hmem
    have hw : (Token.number text value).WellFormed := wellFormed_of_tokenize hs hmem
    obtain ⟨hr, hl, hvalue⟩ := Token.proper_iff_wellFormed.2 hw
    refine ⟨Literal.exists_denotes hr hl, ?_⟩
    intro q hq
    rw [hvalue]
    exact hq.roundsTo

/-- The middle between one and the next double goes to one, whose significand is even. -/
theorem tokenize_literal_rounded_middle :
    let text := "1.00000000000000011102230246251565404236316680908203125"
    Denotes text.toList (1 + 1 / 2 ^ 53) ∧ Number.RoundsTo (1 + 1 / 2 ^ 53) 0x3FF0000000000000 := by
  intro text
  have hsplit : text.toList = ['1'] ++ '.' :: text.toList.drop 2 := by decide +kernel
  have hall : (['1'] ++ text.toList.drop 2).all Char.isDigit = true := by decide +kernel
  have hdigits := List.all_eq_true.1 hall
  have hwhole : Text.digitsValue (['1'] ++ text.toList.drop 2) =
      100000000000000011102230246251565404236316680908203125 := by decide +kernel
  have hplaces : (text.toList.drop 2).length = 53 := by decide +kernel
  have hpoint : Denotes (['1'] ++ '.' :: text.toList.drop 2) _ := .point (by simp) hdigits
  have hratio : (100000000000000011102230246251565404236316680908203125 / 10 ^ 53 : ℚ) =
      1 + 1 / 2 ^ 53 := by norm_num
  rw [← Text.digitsValue_eq_ofDigits, hwhole, hplaces, Nat.cast_ofNat, hratio, ← hsplit] at hpoint
  refine ⟨hpoint, ?_⟩
  obtain ⟨value, h⟩ := tokenize_literal_rounded.2.1 text _ hpoint
  have hround := (tokenize_literal_rounded.2.2 text _ text value h (by simp)).2 _ hpoint
  have hvalue : value = Literal.value text.toList := by
    rw [tokenize_of_denotes hpoint] at h
    simpa using h.symm
  have hbits : (Literal.value text.toList).toBits = 0x3FF0000000000000 := by decide +kernel
  rw [hvalue, hbits] at hround
  exact hround

end DeskCalculator
