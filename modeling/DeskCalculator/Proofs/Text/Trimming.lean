import DeskCalculator.Text.Surrogate
import Mathlib.Data.List.DropRight

namespace DeskCalculator.Text

variable {α : Type} (p : α → Bool) (cs : List α)

theorem trimWhile_eq_rdropWhile : trimWhile p cs = (cs.dropWhile p).rdropWhile p := rfl

/-- A text that begins well still does so without its end. -/
theorem dropWhile_rdropWhile_of_dropWhile (h : cs.dropWhile p = cs) :
    (cs.rdropWhile p).dropWhile p = cs.rdropWhile p := by
  rw [List.dropWhile_eq_self_iff] at h ⊢
  intro hl hp
  have hpre : cs.rdropWhile p <+: cs := List.rdropWhile_prefix p cs
  have hlt : 0 < cs.length := Nat.lt_of_lt_of_le hl hpre.length_le
  have hh : (cs.rdropWhile p)[0] = cs[0] := hpre.getElem hl
  exact h hlt (by simpa [hh] using hp)

theorem trimWhile_idem : trimWhile p (trimWhile p cs) = trimWhile p cs := by
  have hd : (cs.dropWhile p).dropWhile p = cs.dropWhile p := List.dropWhile_idempotent p _
  rw [trimWhile_eq_rdropWhile, trimWhile_eq_rdropWhile,
    dropWhile_rdropWhile_of_dropWhile p _ hd, List.rdropWhile_idempotent]

theorem filter_not_dropWhile : (cs.dropWhile p).filter (!p ·) = cs.filter (!p ·) := by
  induction cs with
  | nil => rfl
  | cons c cs ih =>
    rw [List.dropWhile_cons]
    split_ifs with hc
    · rw [ih, List.filter_cons_of_neg (by simp [hc])]
    · rfl

theorem filter_not_trimWhile : (trimWhile p cs).filter (!p ·) = cs.filter (!p ·) := by
  rw [trimWhile, List.filter_reverse, filter_not_dropWhile, List.filter_reverse,
    List.reverse_reverse, filter_not_dropWhile]

section Ends

variable {p q : α → Bool} {cs left right : List α} {c : α}

theorem dropWhile_eq_self_iff_head? : cs.dropWhile p = cs ↔ ∀ c ∈ cs.head?, p c = false := by
  cases cs with
  | nil => simp
  | cons c cs => simp [List.dropWhile_eq_self_iff]

theorem rdropWhile_eq_self_iff_getLast? :
    cs.rdropWhile p = cs ↔ ∀ c ∈ cs.getLast?, p c = false := by
  rw [List.rdropWhile_eq_self_iff]
  cases cs using List.reverseRecOn with
  | nil => simp
  | append_singleton cs c => simp

/-- A text stays as it is where neither its first nor its last character is taken away. -/
theorem trimWhile_eq_self_iff : trimWhile p cs = cs ↔
    (∀ c ∈ cs.head?, p c = false) ∧ ∀ c ∈ cs.getLast?, p c = false := by
  rw [← dropWhile_eq_self_iff_head?, ← rdropWhile_eq_self_iff_getLast?]
  constructor
  · intro h
    have hfront : (trimWhile p cs).dropWhile p = trimWhile p cs :=
      dropWhile_rdropWhile_of_dropWhile p _ (List.dropWhile_idempotent p cs)
    have hback : (trimWhile p cs).rdropWhile p = trimWhile p cs := List.rdropWhile_idempotent p _
    rw [h] at hfront hback
    exact ⟨hfront, hback⟩
  · intro h
    rw [trimWhile_eq_rdropWhile, h.1, h.2]

theorem trimWhile_eq_nil_iff : trimWhile p cs = [] ↔ ∀ c ∈ cs, p c = true := by
  rw [trimWhile_eq_rdropWhile, List.rdropWhile_eq_nil_iff]
  constructor
  · intro h
    rw [← List.dropWhile_eq_nil_iff, ← List.dropWhile_idempotent p cs, List.dropWhile_eq_nil_iff]
    exact h
  · intro h
    rw [List.dropWhile_eq_nil_iff.2 h]
    simp

theorem trimWhile_pad (hl : ∀ c ∈ left, p c = true) (hr : ∀ c ∈ right, p c = true) :
    trimWhile p (left ++ cs ++ right) = trimWhile p cs := by
  by_cases hcs : ∀ c ∈ cs, p c = true
  · rw [trimWhile_eq_nil_iff.2 hcs, trimWhile_eq_nil_iff]
    simp only [List.forall_mem_append]
    exact ⟨⟨hl, hcs⟩, hr⟩
  · -- the first character that stays is one of `cs`
    have hne : (cs.dropWhile p).isEmpty = false := by simpa using hcs
    have hback : ∀ c ∈ right.reverse, p c = true := fun c hc => hr c (List.mem_reverse.1 hc)
    rw [trimWhile, List.append_assoc, List.dropWhile_append_of_pos hl, List.dropWhile_append, hne,
      if_neg Bool.false_ne_true, List.reverse_append, List.dropWhile_append_of_pos hback, trimWhile]

theorem mem_of_mem_trimWhile (h : c ∈ trimWhile p cs) : c ∈ cs :=
  (List.dropWhile_suffix p).subset ((List.rdropWhile_prefix p _).subset h)

theorem dropWhile_congr (h : ∀ c ∈ cs, p c = q c) : cs.dropWhile p = cs.dropWhile q := by
  induction cs with
  | nil => rfl
  | cons c cs ih =>
    rw [List.dropWhile_cons, List.dropWhile_cons, h c (by simp),
      ih fun c hc => h c (List.mem_cons_of_mem _ hc)]

theorem trimWhile_congr (h : ∀ c ∈ cs, p c = q c) : trimWhile p cs = trimWhile q cs := by
  have hback : ∀ c ∈ (cs.dropWhile q).reverse, p c = q c := fun c hc =>
    h c ((List.dropWhile_suffix q).subset (List.mem_reverse.1 hc))
  rw [trimWhile, dropWhile_congr h, dropWhile_congr hback, trimWhile]

end Ends

variable (s : String)

theorem toList_trim : (trim s).toList = trimWhile isBlank s.toList := String.toList_ofList

theorem trim_trim : trim (trim s) = trim s := by
  rw [trim, toList_trim, trimWhile_idem]
  rfl

theorem removeBlanks_trim : removeBlanks (trim s).toList = removeBlanks s.toList := by
  rw [toList_trim]
  exact filter_not_trimWhile isBlank s.toList

theorem allBlank_trim : allBlank (trim s) = allBlank s := by
  rw [Bool.eq_iff_iff, allBlank, allBlank, ← removeBlanks_eq_nil_iff, ← removeBlanks_eq_nil_iff,
    removeBlanks_trim]

variable (us : Codes)

theorem trimWhile_map {β : Type} (f : α → β) (q : β → Bool) (xs : List α) :
    trimWhile q (xs.map f) = (trimWhile (q ∘ f) xs).map f := by
  simp only [trimWhile, List.dropWhile_map, ← List.map_reverse]

theorem toList_ofCodes : (ofCodes us).toList = us.map codeChar := String.toList_ofList

theorem ofCodes_trimCodes : ofCodes (trimCodes us) = trim (ofCodes us) := by
  rw [trim, toList_ofCodes, trimWhile_map]
  rfl

theorem allBlank_ofCodes : allBlank (ofCodes us) = us.all isBlankCode := by
  rw [allBlank, toList_ofCodes, List.all_map]
  rfl

theorem codes_ofCodes_eq_iff :
    codes (ofCodes us) = us ↔ ∀ u ∈ us, (codeChar u).toNat = u := by
  rw [codes, toList_ofCodes, List.map_map]
  induction us with
  | nil => simp
  | cons u us ih => simp [ih]

/-- Whatever has no character of its own counts as not blank. -/
theorem toNat_codeChar_of_isBlankCode {u : Nat} (h : isBlankCode u = true) :
    (codeChar u).toNat = u := by
  rw [isBlankCode, codeChar] at h
  rw [codeChar]
  split_ifs at h ⊢ with hs
  · exact absurd h (by decide)
  · by_cases hv : u.isValidChar
    · rw [Char.ofNat, dif_pos hv]
      rfl
    · simp [Char.ofNat, hv] at h
      exact absurd h (by decide)

/-- Trimming takes no surrogate away. -/
theorem codes_ofCodes_trimCodes_iff :
    codes (ofCodes (trimCodes us)) = trimCodes us ↔ codes (ofCodes us) = us := by
  rw [codes_ofCodes_eq_iff, codes_ofCodes_eq_iff]
  constructor
  · intro h u hu
    cases hb : isBlankCode u with
    | true => exact toNat_codeChar_of_isBlankCode hb
    | false =>
      have hkept : u ∈ (trimCodes us).filter (!isBlankCode ·) := by
        rw [trimCodes, filter_not_trimWhile]
        simp [hu, hb]
      exact h u (List.mem_of_mem_filter hkept)
  · intro h u hu
    exact h u (mem_of_mem_trimWhile hu)

theorem ofCodes?_trimCodes : ofCodes? (trimCodes us) = (ofCodes? us).map trim := by
  rw [ofCodes?, ofCodes?]
  by_cases h : codes (ofCodes us) = us
  · rw [if_pos h, if_pos ((codes_ofCodes_trimCodes_iff us).2 h), ofCodes_trimCodes]
    rfl
  · rw [if_neg h, if_neg (mt (codes_ofCodes_trimCodes_iff us).1 h)]
    rfl

end DeskCalculator.Text
