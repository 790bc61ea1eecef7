namespace DeskCalculator.Text

/-- The Unicode white space characters together with the four information separators. -/
def isBlank (c : Char) : Bool :=
  let n := c.toNat
  (0x09 ≤ n && n ≤ 0x0D) || (0x1C ≤ n && n ≤ 0x20) || n == 0x85 || n == 0xA0 || n == 0x1680 ||
    (0x2000 ≤ n && n ≤ 0x200A) || n == 0x2028 || n == 0x2029 || n == 0x202F || n == 0x205F ||
    n == 0x3000

/-- A list without a leading and a trailing run of those members that `p` accepts. -/
def trimWhile {α : Type} (p : α → Bool) (xs : List α) : List α :=
  ((xs.dropWhile p).reverse.dropWhile p).reverse

def trim (s : String) : String := String.ofList (trimWhile isBlank s.toList)

def removeBlanks (cs : List Char) : List Char := cs.filter (!isBlank ·)

/-- A text is blank when it holds nothing but blanks, the empty text included. -/
def allBlank (s : String) : Bool := s.toList.all isBlank

theorem removeBlanks_append (xs ys : List Char) :
    removeBlanks (xs ++ ys) = removeBlanks xs ++ removeBlanks ys := List.filter_append ..

theorem removeBlanks_eq_nil_iff (cs : List Char) :
    removeBlanks cs = [] ↔ cs.all isBlank := by
  simp [removeBlanks]

def splitAt (sep : Char) : List Char → List (List Char)
  | [] => [[]]
  | c :: cs =>
    if c = sep then [] :: splitAt sep cs
    else match splitAt sep cs with
      | part :: parts => (c :: part) :: parts
      | [] => [[c]]

theorem splitAt_ne_nil (sep : Char) (cs : List Char) : splitAt sep cs ≠ [] := by
  cases cs with
  | nil => simp [splitAt]
  | cons c cs =>
    unfold splitAt
    split
    · simp
    · split <;> simp

theorem splitAt_eq_splitOn (sep : Char) (cs : List Char) : splitAt sep cs = cs.splitOn sep := by
  induction cs with
  | nil => rfl
  | cons c cs ih =>
    obtain ⟨part, parts, hp⟩ := List.exists_cons_of_ne_nil (List.splitOn_ne_nil sep cs)
    rw [splitAt, List.splitOn_cons_eq_if_modifyHead, ih, hp]
    by_cases hc : c = sep
    · rw [if_pos hc, if_pos (beq_iff_eq.2 hc)]
    · rw [if_neg hc, if_neg (mt beq_iff_eq.1 hc)]
      rfl

theorem notMem_of_mem_splitAt {sep : Char} {cs part : List Char} (h : part ∈ splitAt sep cs) :
    sep ∉ part := by
  induction cs generalizing part with
  | nil => simp_all [splitAt]
  | cons c cs ih =>
    unfold splitAt at h
    split at h
    next => rcases List.mem_cons.1 h with rfl | h <;> simp_all
    next hc =>
      split at h
      next p ps hp =>
        rw [hp] at ih
        rcases List.mem_cons.1 h with rfl | h
        · rw [List.mem_cons, not_or]
          exact ⟨Ne.symm hc, ih List.mem_cons_self⟩
        · exact ih (List.mem_cons_of_mem _ h)
      next hp => exact absurd hp (splitAt_ne_nil sep cs)

end DeskCalculator.Text
