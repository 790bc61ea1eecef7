import DeskCalculator.Proofs.Text.Digits
import DeskCalculator.Proofs.Text.Trimming
import DeskCalculator.Setup.Settings
import Mathlib.Data.Nat.Digits.Lemmas

namespace DeskCalculator

namespace Setup.Port

/-- Whether a character may stand around the number in a text. In an ASCII text the information
separators may not, in any other one all blanks may. -/
def isMargin (text : List Char) (c : Char) : Bool :=
  if text.all (·.toNat < 128) then (0x09 ≤ c.toNat && c.toNat ≤ 0x0D) || c.toNat == 0x20
  else Text.isBlank c

/-- No information separator stands in the text unless it is an ASCII text. -/
def Unmixed (text : List Char) : Prop :=
  (∀ c ∈ text, c.toNat < 128) ∨ ∀ c ∈ text, ¬ (0x1C ≤ c.toNat ∧ c.toNat ≤ 0x1F)

/-- The characters are no more than 4300 digits, and these spell the number, the most significant
one first. -/
def Magnitude (cs : List Char) (m : Nat) : Prop :=
  ∃ ds, Spells cs ds ∧ ds.length ≤ 4300 ∧ Nat.ofDigits 10 ds.reverse = m

/-- The characters are the number, with or without a sign in front. -/
inductive Numeral : List Char → Int → Prop where
  | unsigned {cs : List Char} {m : Nat} : Magnitude cs m → Numeral cs m
  | plus {cs : List Char} {m : Nat} : Magnitude cs m → Numeral ('+' :: cs) m
  | minus {cs : List Char} {m : Nat} : Magnitude cs m → Numeral ('-' :: cs) (-m)

variable {cs text : List Char} {ds : List Nat} {c : Char} {n : Int} {s : String}

theorem isPadding_of_ascii (h : c.toNat < 128) :
    isPadding c = ((0x09 ≤ c.toNat && c.toNat ≤ 0x0D) || c.toNat == 0x20) := by
  rw [Bool.eq_iff_iff]
  simp only [isPadding, Text.isBlank, Bool.or_eq_true, Bool.and_eq_true, Bool.not_eq_true',
    Bool.and_eq_false_iff, decide_eq_true_eq, decide_eq_false_iff_not, beq_iff_eq]
  omega

theorem isPadding_of_no_separator (h : ¬ (0x1C ≤ c.toNat ∧ c.toNat ≤ 0x1F)) :
    isPadding c = Text.isBlank c := by
  have hno : (0x1C ≤ c.toNat && c.toNat ≤ 0x1F) = false := by simpa using h
  rw [isPadding, hno]
  simp

theorem trimWhile_isPadding (h : Unmixed text) :
    Text.trimWhile isPadding text = Text.trimWhile (isMargin text) text := by
  apply Text.trimWhile_congr
  intro c hc
  rw [isMargin]
  split_ifs with hascii
  · exact isPadding_of_ascii (by simpa using List.all_eq_true.1 hascii c hc)
  · have hseparators := h.resolve_left fun hall => hascii (by simpa using hall)
    exact isPadding_of_no_separator (hseparators c hc)

theorem magnitude?_eq_some_iff {m : Nat} : magnitude? cs = some m ↔ Magnitude cs m := by
  change (digits? cs).bind _ = some m ↔ _
  rw [Option.bind_eq_some_iff]
  refine exists_congr fun ds => and_congr digits?_eq_some_iff ?_
  rw [Text.foldl_eq_ofDigits, Text.maxDigits]
  simp

theorem ofChars?_minus (cs : List Char) :
    ofChars? ('-' :: cs) = (magnitude? cs).map fun m : Nat => -(m : Int) := by
  rw [ofChars?]
  cases magnitude? cs <;> rfl

theorem ofChars?_plus (cs : List Char) :
    ofChars? ('+' :: cs) = (magnitude? cs).map fun m : Nat => (m : Int) := by
  rw [ofChars?]
  cases magnitude? cs <;> rfl

theorem ofChars?_unsigned (hm : cs.head? ≠ some '-') (hp : cs.head? ≠ some '+') :
    ofChars? cs = (magnitude? cs).map fun m : Nat => (m : Int) := by
  unfold ofChars?
  split
  · exact absurd rfl hm
  · exact absurd rfl hp
  · cases magnitude? cs <;> rfl

/-- Digits do not begin with a sign. -/
theorem Spells.head?_ne (h : Spells cs ds) (hc : Text.decimalDigit? c = none) :
    cs.head? ≠ some c := by
  intro hhead
  cases h <;> simp_all

theorem Magnitude.head?_ne {m : Nat} (h : Magnitude cs m) (hc : Text.decimalDigit? c = none) :
    cs.head? ≠ some c := by
  obtain ⟨ds, hs, -⟩ := h
  exact hs.head?_ne hc

theorem ofChars?_eq_some_iff : ofChars? cs = some n ↔ Numeral cs n := by
  constructor
  · intro h
    by_cases hm : cs.head? = some '-'
    · obtain ⟨cs, rfl⟩ := List.head?_eq_some_iff.1 hm
      rw [ofChars?_minus] at h
      obtain ⟨m, hmag, rfl⟩ := Option.map_eq_some_iff.1 h
      exact .minus (magnitude?_eq_some_iff.1 hmag)
    · by_cases hp : cs.head? = some '+'
      · obtain ⟨cs, rfl⟩ := List.head?_eq_some_iff.1 hp
        rw [ofChars?_plus] at h
        obtain ⟨m, hmag, rfl⟩ := Option.map_eq_some_iff.1 h
        exact .plus (magnitude?_eq_some_iff.1 hmag)
      · rw [ofChars?_unsigned hm hp] at h
        obtain ⟨m, hmag, rfl⟩ := Option.map_eq_some_iff.1 h
        exact .unsigned (magnitude?_eq_some_iff.1 hmag)
  · intro h
    cases h with
    | unsigned hmag =>
      have hm : cs.head? ≠ some '-' := hmag.head?_ne (by decide)
      have hp : cs.head? ≠ some '+' := hmag.head?_ne (by decide)
      rw [ofChars?_unsigned hm hp, magnitude?_eq_some_iff.2 hmag]
      rfl
    | plus hmag =>
      rw [ofChars?_plus, magnitude?_eq_some_iff.2 hmag]
      rfl
    | minus hmag =>
      rw [ofChars?_minus, magnitude?_eq_some_iff.2 hmag]
      rfl

/-- What is read from any text, whatever stands around the number. -/
theorem ofText?_eq_some_iff_numeral :
    ofText? s = some n ↔ Numeral (Text.trimWhile isPadding s.toList) n := ofChars?_eq_some_iff

theorem Spells.digit_lt (h : Spells cs ds) : ∀ d ∈ ds, d < 10 := by
  induction h with
  | one hd => simpa using Text.decimalDigit?_lt hd
  | cons hd _ ih => exact List.forall_mem_cons.2 ⟨Text.decimalDigit?_lt hd, ih⟩
  | parted hd _ ih => exact List.forall_mem_cons.2 ⟨Text.decimalDigit?_lt hd, ih⟩

theorem Magnitude.lt {m : Nat} (h : Magnitude cs m) : m < 10 ^ Text.maxDigits := by
  obtain ⟨ds, hs, hlen, rfl⟩ := h
  have hlt : ∀ d ∈ ds.reverse, d < 10 := fun d hd => hs.digit_lt d (List.mem_reverse.1 hd)
  have hpow := Nat.ofDigits_lt_base_pow_length (by decide) hlt
  rw [List.length_reverse] at hpow
  exact Nat.lt_of_lt_of_le hpow (Nat.pow_le_pow_right (by decide) hlen)

theorem Numeral.natAbs_lt (h : Numeral cs n) : n.natAbs < 10 ^ Text.maxDigits := by
  cases h with
  | unsigned hmag => exact hmag.lt
  | plus hmag => exact hmag.lt
  | minus hmag =>
    rw [Int.natAbs_neg]
    exact hmag.lt

theorem spells_of_isDigit (hne : cs ≠ []) (h : ∀ c ∈ cs, c.isDigit = true) :
    Spells cs (cs.map Text.digitValue) := by
  induction cs with
  | nil => exact absurd rfl hne
  | cons c cs ih =>
    obtain ⟨hc, hcs⟩ := List.forall_mem_cons.1 h
    have hd := Text.decimalDigit?_of_isDigit hc
    by_cases hnil : cs = []
    · rw [hnil]
      exact .one hd
    · exact .cons hd (ih hnil hcs)

theorem isDigit_of_mem_toDigits {m : Nat} : ∀ c ∈ Nat.toDigits 10 m, c.isDigit = true :=
  fun _ => Nat.isDigit_of_mem_toDigits (by decide) (by decide)

theorem magnitude_toDigits {m : Nat} (h : m < 10 ^ Text.maxDigits) :
    Magnitude (Nat.toDigits 10 m) m := by
  refine ⟨_, spells_of_isDigit Nat.toDigits_ne_nil isDigit_of_mem_toDigits, ?_, ?_⟩
  · rw [List.length_map]
    change (Nat.toDigits 10 m).length ≤ Text.maxDigits
    exact (Nat.length_toDigits_le_iff (by decide) (by decide)).2 h
  · rw [← Text.digitsValue_eq_ofDigits, Text.digitsValue_toDigits]

theorem numeral_decimal (h : n.natAbs < 10 ^ Text.maxDigits) :
    Numeral (Text.decimal n).toList n := by
  cases n with
  | ofNat m =>
    rw [Text.decimal, String.toList_ofList]
    exact .unsigned (magnitude_toDigits h)
  | negSucc m =>
    rw [Text.decimal, String.toList_ofList]
    exact .minus (magnitude_toDigits h)

theorem not_isPadding_of_isDigit (h : c.isDigit = true) : isPadding c = false := by
  obtain ⟨hle, hlt⟩ := Text.toNat_of_isDigit h
  rw [isPadding_of_ascii (by omega), Bool.eq_false_iff]
  simp only [ne_eq, Bool.or_eq_true, Bool.and_eq_true, decide_eq_true_eq, beq_iff_eq]
  omega

theorem not_isPadding_of_mem_decimal (h : c ∈ (Text.decimal n).toList) : isPadding c = false := by
  cases n with
  | ofNat m =>
    rw [Text.decimal, String.toList_ofList] at h
    exact not_isPadding_of_isDigit (isDigit_of_mem_toDigits c h)
  | negSucc m =>
    rw [Text.decimal, String.toList_ofList] at h
    obtain rfl | hc := List.mem_cons.1 h
    · decide
    · exact not_isPadding_of_isDigit (isDigit_of_mem_toDigits c hc)

/-- A number that is not too long is read from its decimal text. -/
theorem ofText?_decimal (h : n.natAbs < 10 ^ Text.maxDigits) :
    ofText? (Text.decimal n) = some n := by
  have hkeep : ∀ c ∈ (Text.decimal n).toList, isPadding c = false :=
    fun c hc => not_isPadding_of_mem_decimal hc
  have htrim : Text.trimWhile isPadding (Text.decimal n).toList = (Text.decimal n).toList :=
    Text.trimWhile_eq_self_iff.2 ⟨fun c hc => hkeep c (List.mem_of_mem_head? hc),
      fun c hc => hkeep c (List.mem_of_mem_getLast? hc)⟩
  rw [ofText?_eq_some_iff_numeral, htrim]
  exact numeral_decimal h

theorem ofText?_eq_some_iff (h : Unmixed s.toList) : ofText? s = some n ↔
    Numeral (Text.trimWhile (isMargin s.toList) s.toList) n := by
  rw [ofText?_eq_some_iff_numeral, trimWhile_isPadding h]

end Setup.Port

open Setup.Port

/-- Ports in texts. Whatever else is set, the settings can be read exactly where the text of the
port, freed of what may stand around a number, is a number, and then the port is that number. Any
other text is faulty. The decimal text of a port that was read gives the same port again. -/
theorem Setup.Settings.port_exact :
    (∀ env s, env "PORT" = some s → Unmixed s.toList →
      (∀ n, (∃ st, ofEnvironment env = .ok st ∧ st.port = n) ↔
        Numeral (Text.trimWhile (isMargin s.toList) s.toList) n) ∧
      ((∀ n, ¬ Numeral (Text.trimWhile (isMargin s.toList) s.toList) n) →
        ofEnvironment env = .error (.badPort s))) ∧
    ∀ env env₂ st, ofEnvironment env = .ok st → env₂ "PORT" = some (Text.decimal st.port) →
      ∃ st₂, ofEnvironment env₂ = .ok st₂ ∧ st₂.port = st.port := by
  constructor
  · intro env s hs hu
    have htext : (env "PORT").getD "3000" = s := by rw [hs]; rfl
    constructor
    · intro n
      rw [← ofText?_eq_some_iff hu, ← htext]
      constructor
      · rintro ⟨st, hst, rfl⟩
        exact (read_of_ofEnvironment hst).1
      · intro hn
        obtain ⟨st, hst, hport, -⟩ := ofEnvironment_of_port hn
        exact ⟨st, hst, hport⟩
    · intro hno
      have hnone : ofText? s = none := by
        rw [Option.eq_none_iff_forall_ne_some]
        exact fun n hn => hno n ((ofText?_eq_some_iff hu).1 hn)
      rw [← htext] at hnone
      rw [ofEnvironment_of_no_port hnone, htext]
  · intro env env₂ st hst ht
    have hread := ofText?_eq_some_iff_numeral.1 (read_of_ofEnvironment hst).1
    have htext : (env₂ "PORT").getD "3000" = Text.decimal st.port := by rw [ht]; rfl
    have hport := ofText?_decimal hread.natAbs_lt
    rw [← htext] at hport
    obtain ⟨st₂, hst₂, hport₂, -⟩ := ofEnvironment_of_port hport
    exact ⟨st₂, hst₂, hport₂⟩

/-- Digits of three scripts, and a blank outside ASCII in front of them. -/
theorem Setup.Settings.port_exact_scripts :
    let text := "\u00a0-0３_४ "
    let env : Environment := fun name => if name = "PORT" then some text else none
    Unmixed text.toList ∧ Numeral ['-', '0', '３', '_', '४'] (-34) ∧
      ∃ st, ofEnvironment env = .ok st ∧ st.port = -34 := by
  intro text env
  have hall : text.toList.all (fun c => c.toNat < 0x1C || 0x1F < c.toNat) = true := by decide
  have hu : Unmixed text.toList := by
    refine .inr fun c hc => ?_
    have hc' := List.all_eq_true.1 hall c hc
    simp only [Bool.or_eq_true, decide_eq_true_eq] at hc'
    omega
  have htrim : Text.trimWhile (isMargin text.toList) text.toList =
      ['-', '0', '３', '_', '४'] := by decide +kernel
  have hspells : Spells ['0', '３', '_', '४'] [0, 3, 4] :=
    .cons (by decide) (.parted (by decide) (.one (by decide)))
  have hn : Numeral ['-', '0', '３', '_', '४'] (-34) :=
    .minus ⟨[0, 3, 4], hspells, by decide, by decide⟩
  refine ⟨hu, hn, ((port_exact.1 env text rfl hu).1 (-34)).2 ?_⟩
  rw [htrim]
  exact hn

example : ofText? "1__2" = none := by decide

end DeskCalculator
