import DeskCalculator.Proofs.Expression.Lexing
import DeskCalculator.Proofs.Expression.Reordering
import DeskCalculator.Proofs.Expression.Valuation

namespace DeskCalculator

/-- A phrase of the grammar is one of the looser grammar, and its tree is the order it is put in. -/
theorem Derives.reorders {level : Level} {ts : List Token} {t : Tree}
    (h : Derives level ts t) : Reorders level ts t.postorder := by
  induction h with
  | number text value => exact .number text value .empty
  | paren _ ih => exact .paren .empty ih
  | factor _ ih => exact .factor ih
  | mul hop _ _ ihl ihr => exact .mul hop ihl ihr
  | product _ ih => exact .product ih
  | add hop _ _ ihl ihr => exact .add hop ihl ihr

theorem Alternates.operator {xs ys : List Token} {op : Operator} {ended ended' : Bool} :
    Alternates ended (xs ++ .operator op :: ys) ended' ↔
      Alternates ended xs true ∧ Alternates false ys ended' := by
  simp [alternates_append, Alternates, Token.startsOperand, Token.endsOperand]

theorem Alternates.paren {ys : List Token} {ended ended' : Bool} :
    Alternates ended (.lparen :: ys ++ [.rparen]) ended' ↔
      ended = false ∧ Alternates false ys true ∧ ended' = true := by
  cases ended <;> cases ended' <;>
    simp [alternates_append, Alternates, Token.startsOperand, Token.endsOperand]

theorem Derives.alternates {level : Level} {ts : List Token} {t : Tree}
    (h : Derives level ts t) : Alternates false ts true := by
  induction h with
  | number text value => exact ⟨rfl, rfl⟩
  | paren _ ih => exact Alternates.paren.2 ⟨rfl, ih, rfl⟩
  | factor _ ih => exact ih
  | mul _ _ _ ihl ihr => exact Alternates.operator.2 ⟨ihl, ihr⟩
  | product _ ih => exact ih
  | add _ _ _ ihl ihr => exact Alternates.operator.2 ⟨ihl, ihr⟩

/-- A row of operands is empty where the next operand is due after it. -/
theorem Reorders.eq_nil_of_alternates {xs out : List Token} (h : Reorders .factor xs out)
    {ended : Bool} (ha : Alternates ended xs false) : xs = [] := by
  cases h with
  | empty => rfl
  | number text value _ =>
    obtain ⟨b, -, hn⟩ := alternates_append.1 ha
    cases hn.2
  | paren _ _ =>
    obtain ⟨b, -, hp⟩ := alternates_append.1 ha
    cases (Alternates.paren.1 hp).2.2

/-- Where operands alternate, the rows of operands are single ones. -/
theorem Reorders.exists_derives {level : Level} {ts out : List Token}
    (h : Reorders level ts out) (ha : Alternates false ts true) :
    ∃ t : Tree, Derives level ts t := by
  induction h with
  | empty => cases ha
  | number text value hx _ =>
    obtain ⟨b, hb, hn⟩ := alternates_append.1 ha
    obtain rfl : b = false := by simpa [Token.startsOperand] using hn.1
    obtain rfl := hx.eq_nil_of_alternates hb
    exact ⟨_, .number text value⟩
  | paren hx _ _ ihy =>
    obtain ⟨b, hb, hp⟩ := alternates_append.1 ha
    obtain ⟨rfl, hy, -⟩ := Alternates.paren.1 hp
    obtain rfl := hx.eq_nil_of_alternates hb
    obtain ⟨t, ht⟩ := ihy hy
    exact ⟨t, .paren ht⟩
  | factor _ ih =>
    obtain ⟨t, ht⟩ := ih ha
    exact ⟨t, .factor ht⟩
  | mul hop _ _ ihx ihy =>
    obtain ⟨hx, hy⟩ := Alternates.operator.1 ha
    obtain ⟨l, hl⟩ := ihx hx
    obtain ⟨r, hr⟩ := ihy hy
    exact ⟨_, .mul hop hl hr⟩
  | product _ ih =>
    obtain ⟨t, ht⟩ := ih ha
    exact ⟨t, .product ht⟩
  | add hop _ _ ihx ihy =>
    obtain ⟨hx, hy⟩ := Alternates.operator.1 ha
    obtain ⟨l, hl⟩ := ihx hx
    obtain ⟨r, hr⟩ := ihy hy
    exact ⟨_, .add hop hl hr⟩

namespace Expression

theorem compileText_of_tokenize {s : String} {ts : List Token} (hs : tokenize s = .ok ts)
    (hne : ts ≠ []) : compileText s = toPostfix ts := by
  have hb : Text.allBlank s = false := by
    by_contra hblank
    have hall : s.toList.all Text.isBlank = true := by simpa [Text.allBlank] using hblank
    rw [tokenize, (Text.removeBlanks_eq_nil_iff _).2 hall] at hs
    cases hs
    exact hne rfl
  rw [compileText, if_neg (by simp [hb]), hs]
  rfl

/-- Blank texts need no case of their own: they have no tokens, and these have no value. -/
theorem evaluate_eq_ok_iff {s : String} {ts : List Token} (hs : tokenize s = .ok ts)
    {value : Float} :
    evaluate (.text s) = .ok value ↔
      ∃ out, toPostfix ts = .ok out ∧ evalPostfix out = .ok value := by
  change (compileText s >>= evalPostfix) = .ok value ↔ _
  rw [bind_eq_ok_iff]
  constructor
  · intro h
    obtain ⟨out, hc, hv⟩ := h
    rw [compileText] at hc
    split_ifs at hc
    rw [hs] at hc
    exact ⟨out, hc, hv⟩
  · intro h
    obtain ⟨out, hp, hv⟩ := h
    have hne : ts ≠ [] := by
      intro hnil
      rw [hnil] at hp
      cases hp
      cases hv
    exact ⟨out, (compileText_of_tokenize hs hne).trans hp, hv⟩

/-- A text has a value exactly where its tokens, read with rows of operands, come out as the
postorder of a tree without division by zero. -/
theorem evaluate_eq_ok_iff_tree {s : String} {ts : List Token} (hs : tokenize s = .ok ts)
    {value : Float} :
    evaluate (.text s) = .ok value ↔
      ∃ t : Tree, Reorders .sum ts t.postorder ∧ t.eval = .ok value := by
  rw [evaluate_eq_ok_iff hs]
  constructor
  · intro h
    obtain ⟨out, hp, hv⟩ := h
    obtain ⟨t, rfl, ht⟩ := evalPostfix_eq_ok_iff.1 hv
    exact ⟨t, toPostfix_eq_ok_iff.1 hp, ht⟩
  · intro h
    obtain ⟨t, hr, ht⟩ := h
    exact ⟨t.postorder, hr.toPostfix_eq, evalPostfix_eq_ok_iff.2 ⟨t, rfl, ht⟩⟩

/-- What makes up a tree has as many juxtaposed operands as missing ones. -/
theorem gaps_eq_juxtapositions_of_reorders {ts : List Token} {t : Tree}
    (h : Reorders .sum ts t.postorder) : gaps false ts = juxtapositions false ts := by
  have hn : t.postorder.countP Token.isNumber = ts.countP Token.isNumber :=
    h.countP_eq fun u hu => by rw [hu, Bool.true_or]
  have ho : t.postorder.countP Token.isOperator = ts.countP Token.isOperator :=
    h.countP_eq fun u hu => by rw [hu, Bool.or_true]
  have ht := t.countP_postorder
  apply gaps_eq_juxtapositions
  rw [← hn, ← ho, ht]

end Expression

/-- A text with a value, and no operands juxtaposed in it, is a sentence, and the value is that of
its tree. So no operand is missing anywhere, and the parentheses are balanced. -/
theorem sentence_of_evaluate {s : String} {ts : List Token} {value : Float}
    (hs : tokenize s = .ok ts) (hj : ¬ Juxtaposed ts)
    (hv : Expression.evaluate (.text s) = .ok value) :
    (∃ t, Derives .sum ts t ∧ t.eval = .ok value) ∧
      ¬ LacksOperand ts ∧ closes 0 ts = true := by
  obtain ⟨t, hr, ht⟩ := (Expression.evaluate_eq_ok_iff_tree hs).1 hv
  have hjux : juxtapositions false ts = 0 := by
    rw [juxtaposed_iff, not_not] at hj
    exact hj
  have hgaps : gaps false ts = 0 :=
    (Expression.gaps_eq_juxtapositions_of_reorders hr).trans hjux
  obtain ⟨t', ht'⟩ := hr.exists_derives (alternates_iff.2 ⟨hjux, hgaps⟩)
  -- the derivation found is the one of the tree, for the tokens have one postfix order only
  have hsame : t'.postorder = t.postorder := by
    have h' := ht'.reorders.toPostfix_eq
    rw [hr.toPostfix_eq, Except.ok.injEq] at h'
    exact h'.symm
  refine ⟨⟨t', ht', ?_⟩, ?_, closes_of_toPostfix hr.toPostfix_eq⟩
  · rw [← t'.evalPostfix_postorder, hsame, t.evalPostfix_postorder, ht]
  · rw [lacksOperand_iff, hgaps]
    simp

theorem sentence_of_evaluate_quotient :
    ¬ Juxtaposed [.number "6" 6, .operator .div, .lparen, .number "3" 3, .rparen] ∧
      Expression.evaluate (.text "6/(3)") = .ok 2 ∧
      ∃ t, Derives .sum [.number "6" 6, .operator .div, .lparen, .number "3" 3, .rparen] t ∧
        t.eval = .ok 2 := by
  have hs : tokenize "6/(3)" =
      .ok [.number "6" 6, .operator .div, .lparen, .number "3" 3, .rparen] := by decide +kernel
  have hj : ¬ Juxtaposed [.number "6" 6, .operator .div, .lparen, .number "3" 3, .rparen] := by
    decide
  have hv : Expression.evaluate (.text "6/(3)") = .ok 2 := by decide +kernel
  exact ⟨hj, hv, (sentence_of_evaluate hs hj hv).1⟩

/-- Juxtaposed operands are rejected exactly where the tokens, read with rows of operands, do not
come out as the postorder of a tree, or of one that divides by zero. In particular they are
rejected where no operand is missing elsewhere. -/
theorem rejected_iff_of_juxtaposed {s : String} {ts : List Token} (hs : tokenize s = .ok ts)
    (hj : Juxtaposed ts) :
    ((∀ value, Expression.evaluate (.text s) ≠ .ok value) ↔
        ∀ t : Tree, Reorders .sum ts t.postorder → t.DividesByZero) ∧
      (¬ LacksOperand ts → ∀ value, Expression.evaluate (.text s) ≠ .ok value) := by
  constructor
  · constructor
    · intro h t hr
      by_contra hd
      obtain ⟨value, ht⟩ := Tree.exists_value_iff.2 hd
      exact h value ((Expression.evaluate_eq_ok_iff_tree hs).2 ⟨t, hr, ht⟩)
    · intro h value hv
      obtain ⟨t, hr, ht⟩ := (Expression.evaluate_eq_ok_iff_tree hs).1 hv
      exact Tree.exists_value_iff.1 ⟨value, ht⟩ (h t hr)
  · intro hl value hv
    obtain ⟨t, hr, -⟩ := (Expression.evaluate_eq_ok_iff_tree hs).1 hv
    rw [lacksOperand_iff, not_not, Expression.gaps_eq_juxtapositions_of_reorders hr] at hl
    exact juxtaposed_iff.1 hj hl

theorem rejected_of_juxtaposed_product :
    Juxtaposed [.number "5" 5, .lparen, .number "3" 3, .rparen] ∧
      ∀ value, Expression.evaluate (.text "5(3)") ≠ .ok value := by
  have hs : tokenize "5(3)" = .ok [.number "5" 5, .lparen, .number "3" 3, .rparen] := by
    decide +kernel
  have hj : Juxtaposed [.number "5" 5, .lparen, .number "3" 3, .rparen] := by decide
  exact ⟨hj, (rejected_iff_of_juxtaposed hs hj).2 (by decide)⟩

/-- The sign at the end lacks its right operand and takes the two operands before it. -/
theorem juxtaposed_with_value :
    ∃ ts, tokenize "2(3)+" = .ok ts ∧ Juxtaposed ts ∧
      Expression.evaluate (.text "2(3)+") = .ok 5 := by
  refine ⟨[.number "2" 2, .lparen, .number "3" 3, .rparen, .operator .add], ?_, ?_, ?_⟩
  · decide +kernel
  · decide
  · decide +kernel

end DeskCalculator
