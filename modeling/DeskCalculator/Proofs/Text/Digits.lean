import DeskCalculator.Text.Digits
import Mathlib.Data.List.Lex
import Mathlib.Data.Nat.Digits.Defs

namespace DeskCalculator.Text

theorem foldl_eq_ofDigits (ds : List Nat) :
    ds.foldl (10 * · + ·) 0 = Nat.ofDigits 10 ds.reverse := by
  rw [Nat.ofDigits_eq_foldr, List.foldr_reverse]
  simp [Nat.add_comm]

theorem digitsValue_eq_ofDigits (cs : List Char) :
    digitsValue cs = Nat.ofDigits 10 (cs.map digitValue).reverse := by
  rw [← foldl_eq_ofDigits, List.foldl_map]
  rfl

theorem digitsValue_toDigits (n : Nat) : digitsValue (Nat.toDigits 10 n) = n :=
  Nat.ofDigitChars_ten_toDigits

theorem toNat_of_isDigit {c : Char} (h : c.isDigit = true) : 0x30 ≤ c.toNat ∧ c.toNat ≤ 0x39 :=
  Char.isDigit_iff_toNat.1 h

/-- The digits of ASCII are the first script. -/
theorem decimalDigit?_of_isDigit {c : Char} (h : c.isDigit = true) :
    decimalDigit? c = some (digitValue c) := by
  obtain ⟨hle, hlt⟩ := toNat_of_isDigit h
  obtain ⟨others, hzeros⟩ : ∃ others, zeros = 0x30 :: others := ⟨_, rfl⟩
  have hfirst : zeros.find? (fun z => z ≤ c.toNat && c.toNat < z + 10) = some 0x30 := by
    rw [hzeros]
    apply List.find?_cons_of_pos
    rw [Bool.and_eq_true, decide_eq_true_eq, decide_eq_true_eq]
    omega
  rw [decimalDigit?, hfirst]
  rfl

/-- The lexicographic order of texts by code points. -/
def Precedes (xs ys : List Char) : Prop := List.Lex (fun c d => c.toNat < d.toNat) xs ys

variable {xs ys : List Char} {m n width : Nat}

theorem Precedes.cons (h : Precedes xs ys) (c : Char) : Precedes (c :: xs) (c :: ys) :=
  List.Lex.cons h

theorem Precedes.append_left (h : Precedes xs ys) (zs : List Char) :
    Precedes (zs ++ xs) (zs ++ ys) := List.Lex.append_left _ h zs

theorem precedes_of_toNat_lt {c d : Char} (h : c.toNat < d.toNat) (xs ys : List Char) :
    Precedes (c :: xs) (d :: ys) := List.Lex.rel h

theorem digitChar_lt : ∀ n < 10, ∀ m < n, (Nat.digitChar m).toNat < (Nat.digitChar n).toNat := by
  decide

theorem precedes_fixedDigits (h : m < n) (hn : n < Nat.pow 10 width) (xs ys : List Char) :
    Precedes (fixedDigits 10 width m ++ xs) (fixedDigits 10 width n ++ ys) := by
  induction width generalizing m n xs ys with
  | zero =>
    have hone : n < 1 := hn
    omega
  | succ width ih =>
    have hpow : Nat.pow 10 (width + 1) = Nat.pow 10 width * 10 := rfl
    rw [fixedDigits, fixedDigits, List.append_assoc, List.append_assoc]
    obtain hlt | heq : m / 10 < n / 10 ∨ m / 10 = n / 10 := by omega
    · exact ih hlt (by omega) _ _
    · -- the numbers differ in their last digit only
      have hdigit : m % 10 < n % 10 := by omega
      have hten : n % 10 < 10 := by omega
      rw [heq]
      exact (precedes_of_toNat_lt (digitChar_lt _ hten _ hdigit) xs ys).append_left _

/-- Of two texts that begin with a number, the number decides first and then the rest. -/
theorem precedes_of_field (hn : n < Nat.pow 10 width) (h : m < n ∨ m = n ∧ Precedes xs ys) :
    Precedes (fixedDigits 10 width m ++ xs) (fixedDigits 10 width n ++ ys) := by
  obtain hlt | ⟨rfl, hrest⟩ := h
  · exact precedes_fixedDigits hlt hn xs ys
  · exact hrest.append_left _

end DeskCalculator.Text
