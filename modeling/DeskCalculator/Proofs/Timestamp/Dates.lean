import DeskCalculator.Timestamp
import Mathlib.Data.Nat.Init
import Mathlib.Tactic.SplitIfs

namespace DeskCalculator.Timestamp

/-- The days of several months together. -/
def total (ns : List Nat) : Nat := ns.foldl (· + ·) 0

theorem total_cons (n : Nat) (ns : List Nat) : total (n :: ns) = n + total ns := by
  change ns.foldl (· + ·) (0 + n) = n + ns.foldl (· + ·) 0
  rw [Nat.add_comm 0 n]
  exact List.foldl_assoc

/-- A place inside one of several lengths lies before the end of that length, and so before the
beginning of any later one. -/
theorem total_take_add_lt {ns : List Nat} {i j d : Nat} (hij : i < j) (hd : d < ns.getD i 0) :
    total (ns.take i) + d < total (ns.take j) := by
  induction ns generalizing i j with
  | nil => simp at hd
  | cons n ns ih =>
    obtain ⟨j, rfl⟩ : ∃ k, j = k + 1 := ⟨j - 1, by omega⟩
    rw [List.take_succ_cons, total_cons]
    cases i with
    | zero =>
      have hdn : d < n := hd
      change 0 + d < _
      omega
    | succ i =>
      have hlt := ih (i := i) (j := j) (by omega) hd
      rw [List.take_succ_cons, total_cons]
      omega

theorem isLeap_iff (year : Nat) :
    isLeap year = true ↔ year % 4 = 0 ∧ year % 100 ≠ 0 ∨ year % 400 = 0 := by
  simp [isLeap]

theorem total_monthLengths (year : Nat) :
    total (monthLengths year) = if isLeap year then 366 else 365 := by
  rw [monthLengths]
  split_ifs <;> rfl

theorem monthLengths_le (year i : Nat) : (monthLengths year).getD i 0 ≤ 31 := by
  have hall : ∀ n ∈ monthLengths year, n ≤ 31 := by
    intro n hn
    rw [monthLengths] at hn
    split_ifs at hn <;> simp at hn <;> omega
  rw [List.getD_eq_getElem?_getD]
  cases hi : (monthLengths year)[i]? with
  | none => simp
  | some n => exact hall n (List.mem_of_getElem? hi)

theorem div_pred (d : Nat) {n : Nat} (hn : 1 ≤ n) :
    n / d = (n - 1) / d + if n % d = 0 then 1 else 0 := by
  obtain ⟨m, rfl⟩ : ∃ m, n = m + 1 := ⟨n - 1, by omega⟩
  rw [Nat.add_sub_cancel]
  split_ifs with h
  · exact Nat.succ_div_of_mod_eq_zero h
  · exact Nat.succ_div_of_mod_ne_zero h

theorem daysBeforeYear_succ {year : Nat} (h : 1 ≤ year) :
    daysBeforeYear (year + 1) = daysBeforeYear year + total (monthLengths year) := by
  have hmod4 : year % 100 = 0 → year % 4 = 0 := by omega
  have hmod100 : year % 400 = 0 → year % 100 = 0 := by omega
  have hcenturies : (year - 1) / 100 ≤ year - 1 := Nat.div_le_self _ _
  rw [total_monthLengths, daysBeforeYear, daysBeforeYear, Nat.add_sub_cancel, div_pred 4 h,
    div_pred 100 h, div_pred 400 h]
  -- the quotients up to the year before are the same on both sides
  generalize (year - 1) / 4 = a
  generalize (year - 1) / 100 = b at hcenturies ⊢
  generalize (year - 1) / 400 = c
  by_cases hleap : isLeap year = true
  · rw [if_pos hleap]
    rw [isLeap_iff] at hleap
    split_ifs <;> omega
  · rw [if_neg hleap]
    rw [isLeap_iff] at hleap
    split_ifs <;> omega

theorem daysBeforeYear_le {year year' : Nat} (h : 1 ≤ year) (hlt : year < year') :
    daysBeforeYear year + total (monthLengths year) ≤ daysBeforeYear year' := by
  induction year', hlt using Nat.le_induction with
  | base => exact Nat.le_of_eq (daysBeforeYear_succ h).symm
  | succ year' hle ih =>
    have hone : 1 ≤ year' := by omega
    have hsucc := daysBeforeYear_succ hone
    omega

instance (t : Timestamp) : Decidable t.Valid :=
  decidable_of_iff
    ((1 ≤ t.year ∧ t.year ≤ 9999) ∧ (1 ≤ t.month ∧ t.month ≤ 12) ∧
      (1 ≤ t.day ∧ t.day ≤ (monthLengths t.year).getD (t.month - 1) 0) ∧
      t.hour < 24 ∧ t.minute < 60 ∧ t.second < 60 ∧ t.microsecond < 1000000)
    ⟨fun ⟨hy, hm, hd, hh, hmin, hs, hf⟩ => ⟨hy, hm, hd, hh, hmin, hs, hf⟩,
      fun ⟨hy, hm, hd, hh, hmin, hs, hf⟩ => ⟨hy, hm, hd, hh, hmin, hs, hf⟩⟩

variable {t u : Timestamp}

/-- The first field of the date in which the two times differ is smaller in the first one. -/
def DateBefore (t u : Timestamp) : Prop :=
  t.year < u.year ∨ t.year = u.year ∧ (t.month < u.month ∨ t.month = u.month ∧ t.day < u.day)

def SameDate (t u : Timestamp) : Prop := t.year = u.year ∧ t.month = u.month ∧ t.day = u.day

theorem dateBefore_or_sameDate (t u : Timestamp) :
    DateBefore t u ∨ SameDate t u ∨ DateBefore u t := by
  unfold DateBefore SameDate
  omega

def dayOfYear (t : Timestamp) : Nat :=
  total ((monthLengths t.year).take (t.month - 1)) + (t.day - 1)

theorem dayNumber_eq (t : Timestamp) : t.dayNumber = daysBeforeYear t.year + t.dayOfYear :=
  Nat.add_assoc _ _ _

theorem Valid.day_lt (ht : t.Valid) :
    t.day - 1 < (monthLengths t.year).getD (t.month - 1) 0 := by
  have hday := ht.day
  omega

theorem Valid.dayOfYear_lt (ht : t.Valid) : t.dayOfYear < total (monthLengths t.year) := by
  have hmonth := ht.month
  have hlt := total_take_add_lt (i := t.month - 1) (j := 12) (by omega) ht.day_lt
  have hall : (monthLengths t.year).take 12 = monthLengths t.year := rfl
  rw [hall] at hlt
  exact hlt

theorem dayNumber_lt (ht : t.Valid) (h : DateBefore t u) :
    t.dayNumber < u.dayNumber := by
  have hyear := ht.year
  have hmonth := ht.month
  have hday := ht.day
  rw [dayNumber_eq, dayNumber_eq]
  obtain hlt | ⟨heq, h⟩ := h
  · have hin := ht.dayOfYear_lt
    have hyears := daysBeforeYear_le hyear.1 hlt
    omega
  · rw [heq]
    have hin : t.dayOfYear < u.dayOfYear := by
      obtain hlt | ⟨hm, hlt⟩ := h
      · have hmonths := total_take_add_lt (i := t.month - 1) (j := u.month - 1) (by omega) ht.day_lt
        rw [dayOfYear, dayOfYear, ← heq]
        omega
      · rw [dayOfYear, dayOfYear, heq, hm]
        omega
    omega

theorem dayNumber_eq_of_sameDate (h : SameDate t u) : t.dayNumber = u.dayNumber := by
  obtain ⟨hyear, hmonth, hday⟩ := h
  rw [dayNumber, dayNumber, hyear, hmonth, hday]

theorem dateBefore_of_dayNumber_lt (hu : u.Valid) (h : t.dayNumber < u.dayNumber) :
    DateBefore t u := by
  obtain hb | hs | hb := dateBefore_or_sameDate t u
  · exact hb
  · have heq := dayNumber_eq_of_sameDate hs
    omega
  · have hlt := dayNumber_lt hu hb
    omega

theorem sameDate_of_dayNumber_eq (ht : t.Valid) (hu : u.Valid) (h : t.dayNumber = u.dayNumber) :
    SameDate t u := by
  obtain hb | hs | hb := dateBefore_or_sameDate t u
  · have hlt := dayNumber_lt ht hb
    omega
  · exact hs
  · have hlt := dayNumber_lt hu hb
    omega

end DeskCalculator.Timestamp
