import DeskCalculator.Text.Parts
import DeskCalculator.Text.Digits

namespace DeskCalculator.Setup.Port

/-- Blanks that may stand around the number; the information separators may not. -/
def isPadding (c : Char) : Bool := Text.isBlank c && !(0x1C ≤ c.toNat && c.toNat ≤ 0x1F)

/-- The values of digits that may be parted by single underscores. -/
def digits? : List Char → Option (List Nat)
  | [] => none
  | [c] => (Text.decimalDigit? c).map ([·])
  | c :: '_' :: cs => do
    let d ← Text.decimalDigit? c
    let ds ← digits? cs
    return d :: ds
  | c :: cs => do
    let d ← Text.decimalDigit? c
    let ds ← digits? cs
    return d :: ds

/-- The characters spell the digits, the most significant one first. -/
inductive Spells : List Char → List Nat → Prop where
  | one {c : Char} {d : Nat} : Text.decimalDigit? c = some d → Spells [c] [d]
  | cons {c : Char} {d : Nat} {cs : List Char} {ds : List Nat} :
    Text.decimalDigit? c = some d → Spells cs ds → Spells (c :: cs) (d :: ds)
  | parted {c : Char} {d : Nat} {cs : List Char} {ds : List Nat} :
    Text.decimalDigit? c = some d → Spells cs ds → Spells (c :: '_' :: cs) (d :: ds)

/-- Leading zeros count towards the length that is allowed. -/
def magnitude? (cs : List Char) : Option Nat := do
  let ds ← digits? cs
  if ds.length ≤ Text.maxDigits then some (ds.foldl (10 * · + ·) 0) else none

def ofChars? : List Char → Option Int
  | '-' :: cs => (magnitude? cs).map fun n => -(n : Int)
  | '+' :: cs => (magnitude? cs).map fun n => (n : Int)
  | cs => (magnitude? cs).map fun n => (n : Int)

/-- A port is not checked against any range. -/
def ofText? (s : String) : Option Int := ofChars? (Text.trimWhile isPadding s.toList)

theorem decimalDigit?_underscore : Text.decimalDigit? '_' = none := by decide

theorem Spells.ne_nil {cs : List Char} {ds : List Nat} (h : Spells cs ds) : cs ≠ [] := by
  cases h <;> simp

theorem spells_of_digits? {cs : List Char} {ds : List Nat} (h : digits? cs = some ds) :
    Spells cs ds := by
  fun_induction digits? cs generalizing ds with
  | case1 => simp at h
  | case2 c =>
    obtain ⟨d, hd, rfl⟩ := Option.map_eq_some_iff.1 h
    exact .one hd
  | case3 c cs ih =>
    obtain ⟨d, hd, h⟩ := Option.bind_eq_some_iff.1 h
    obtain ⟨ds, hds, h⟩ := Option.bind_eq_some_iff.1 h
    obtain rfl := Option.some.inj h
    exact .parted hd (ih hds)
  | case4 c cs _ _ ih =>
    obtain ⟨d, hd, h⟩ := Option.bind_eq_some_iff.1 h
    obtain ⟨ds, hds, h⟩ := Option.bind_eq_some_iff.1 h
    obtain rfl := Option.some.inj h
    exact .cons hd (ih hds)

theorem digits?_of_spells {cs : List Char} {ds : List Nat} (h : Spells cs ds) :
    digits? cs = some ds := by
  induction h with
  | one hd => simp [digits?, hd]
  | @cons c d cs ds hd hs ih =>
    cases cs with
    | nil => exact absurd rfl hs.ne_nil
    | cons c' cs =>
      by_cases hc : c' = '_'
      · subst hc
        have hn := decimalDigit?_underscore
        cases hs <;> simp_all
      · unfold digits?
        split <;> simp_all
  | parted hd _ ih => simp [digits?, hd, ih]

/-- The digits are read exactly where the characters spell them. -/
theorem digits?_eq_some_iff {cs : List Char} {ds : List Nat} :
    digits? cs = some ds ↔ Spells cs ds := ⟨spells_of_digits?, digits?_of_spells⟩

end DeskCalculator.Setup.Port
