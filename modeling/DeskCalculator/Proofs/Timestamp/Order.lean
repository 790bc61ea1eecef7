import DeskCalculator.Proofs.Text.Digits
import DeskCalculator.Proofs.Timestamp.Dates

/-!
Timestamps in the order of their texts. Of two times in UTC the earlier one has the text that comes
first in lexicographic order (`precedes_of_instant_lt`), although a fraction is written only where
there is one: the sign of the offset, which follows at once where there is none, comes before the
point of the fraction.
-/

namespace DeskCalculator.Timestamp

variable {t u : Timestamp} {xs ys : List Char}

/-- The first field of the time of day, down to the second, in which the two times differ is
smaller in the first one. -/
def TimeBefore (t u : Timestamp) : Prop :=
  t.hour < u.hour ∨ t.hour = u.hour ∧
    (t.minute < u.minute ∨ t.minute = u.minute ∧ t.second < u.second)

def SameTime (t u : Timestamp) : Prop :=
  t.hour = u.hour ∧ t.minute = u.minute ∧ t.second = u.second

theorem precedes_dateText (hu : u.Valid) (h : DateBefore t u) (xs ys : List Char) :
    Text.Precedes (t.dateText ++ xs) (u.dateText ++ ys) := by
  have hyear : u.year < Nat.pow 10 4 := Nat.lt_succ_of_le hu.year.2
  have hmonth : u.month < Nat.pow 10 2 := Nat.lt_of_le_of_lt hu.month.2 (by decide)
  have hday : u.day < Nat.pow 10 2 := by
    have hle := Nat.le_trans hu.day.2 (monthLengths_le u.year (u.month - 1))
    exact Nat.lt_of_le_of_lt hle (by decide)
  simp only [dateText, List.append_assoc, List.cons_append]
  refine Text.precedes_of_field hyear (h.imp_right fun h => ⟨h.1, ?_⟩)
  refine (Text.precedes_of_field hmonth (h.2.imp_right fun h => ⟨h.1, ?_⟩)).cons '-'
  exact (Text.precedes_fixedDigits h.2 hday xs ys).cons '-'

theorem precedes_timeText (hu : u.Valid) (h : TimeBefore t u) (xs ys : List Char) :
    Text.Precedes (t.timeText ++ xs) (u.timeText ++ ys) := by
  have hhour : u.hour < Nat.pow 10 2 := Nat.lt_trans hu.hour (by decide)
  have hminute : u.minute < Nat.pow 10 2 := Nat.lt_trans hu.minute (by decide)
  have hsecond : u.second < Nat.pow 10 2 := Nat.lt_trans hu.second (by decide)
  simp only [timeText, List.append_assoc, List.cons_append]
  refine Text.precedes_of_field hhour (h.imp_right fun h => ⟨h.1, ?_⟩)
  refine (Text.precedes_of_field hminute (h.2.imp_right fun h => ⟨h.1, ?_⟩)).cons ':'
  exact (Text.precedes_fixedDigits h.2 hsecond xs ys).cons ':'

/-- A fraction that is left out comes first, for a plus sign comes before a point. -/
theorem precedes_fractionText (hu : u.Valid) (h : t.microsecond < u.microsecond)
    (xs ys : List Char) :
    Text.Precedes (t.fractionText ++ '+' :: xs) (u.fractionText ++ '+' :: ys) := by
  have hne : u.microsecond ≠ 0 := by omega
  have hmicrosecond : u.microsecond < Nat.pow 10 6 := hu.microsecond
  rw [fractionText, fractionText, if_neg hne]
  split_ifs
  · exact Text.precedes_of_toNat_lt (by decide) _ _
  · exact (Text.precedes_fixedDigits h hmicrosecond _ _).cons '.'

theorem dateText_eq (h : SameDate t u) : t.dateText = u.dateText := by
  obtain ⟨hyear, hmonth, hday⟩ := h
  rw [dateText, dateText, hyear, hmonth, hday]

theorem timeText_eq (h : SameTime t u) : t.timeText = u.timeText := by
  obtain ⟨hhour, hminute, hsecond⟩ := h
  rw [timeText, timeText, hhour, hminute, hsecond]

/-- In UTC the day decides first, then the time of day to the second, then the fraction. -/
theorem before_of_instant_lt (ht : t.Valid) (hu : u.Valid) (htz : t.offset = some 0)
    (huz : u.offset = some 0) (h : t.instant < u.instant) :
    DateBefore t u ∨ SameDate t u ∧
      (TimeBefore t u ∨ SameTime t u ∧ t.microsecond < u.microsecond) := by
  have hth := ht.hour
  have htm := ht.minute
  have hts := ht.second
  have htf := ht.microsecond
  have huh := hu.hour
  have hum := hu.minute
  have hus := hu.second
  have huf := hu.microsecond
  rw [instant, instant, htz, huz, Option.getD_some] at h
  obtain hlt | heq | hgt := Nat.lt_trichotomy t.dayNumber u.dayNumber
  · exact .inl (dateBefore_of_dayNumber_lt hu hlt)
  · refine .inr ⟨sameDate_of_dayNumber_eq ht hu heq, ?_⟩
    unfold TimeBefore SameTime
    rw [heq] at h
    omega
  · omega

theorem text_toList (htz : t.offset = some 0) :
    t.text.toList = t.dateText ++ 'T' :: (t.timeText ++ (t.fractionText ++ "+00:00".toList)) := by
  have hoffset : (t.offset.map offsetText).getD [] = "+00:00".toList := by
    rw [htz]
    decide
  rw [text, String.toList_ofList, hoffset]
  simp

theorem precedes_of_instant_lt (ht : t.Valid) (hu : u.Valid) (htz : t.offset = some 0)
    (huz : u.offset = some 0) (h : t.instant < u.instant) :
    Text.Precedes t.text.toList u.text.toList := by
  rw [text_toList htz, text_toList huz]
  obtain hdate | ⟨hdate, htime | ⟨htime, hfraction⟩⟩ := before_of_instant_lt ht hu htz huz h
  · exact precedes_dateText hu hdate _ _
  · rw [dateText_eq hdate]
    exact ((precedes_timeText hu htime _ _).cons 'T').append_left _
  · rw [dateText_eq hdate, timeText_eq htime]
    exact (((precedes_fractionText hu hfraction _ _).append_left _).cons 'T').append_left _

end DeskCalculator.Timestamp
