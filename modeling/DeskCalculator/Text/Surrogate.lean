import DeskCalculator.Text.Parts

namespace DeskCalculator.Text

/-- A text as code points. Unlike a string, it may hold surrogates that belong to no pair. -/
abbrev Codes := List Nat

def isHighSurrogate (u : Nat) : Bool := 0xD800 ≤ u && u < 0xDC00

def isLowSurrogate (u : Nat) : Bool := 0xDC00 ≤ u && u < 0xE000

def isSurrogate (u : Nat) : Bool := isHighSurrogate u || isLowSurrogate u

/-- The code point that a high and a low surrogate stand for. -/
def pairCode (u v : Nat) : Nat := 0x10000 + (u - 0xD800) * 0x400 + (v - 0xDC00)

/-- The character of a code point, the replacement character for a surrogate. -/
def codeChar (u : Nat) : Char := if isSurrogate u then '\ufffd' else Char.ofNat u

def codes (s : String) : Codes := s.toList.map Char.toNat

def ofCodes (us : Codes) : String := String.ofList (us.map codeChar)

/-- A part of a text as it was written: a code point, or a unit of 16 bits, which may be one half
of a pair. -/
inductive Piece where
  | code (u : Nat)
  | unit (u : Nat)
  deriving DecidableEq

/-- A high surrogate and a low one right after it are one code point if both are units. -/
def joinPieces : List Piece → Codes
  | [] => []
  | .code u :: rest => u :: joinPieces rest
  | [.unit u] => [u]
  | .unit u :: .code v :: rest => u :: joinPieces (.code v :: rest)
  | .unit u :: .unit v :: rest =>
    if isHighSurrogate u && isLowSurrogate v then pairCode u v :: joinPieces rest
    else u :: joinPieces (.unit v :: rest)

/-- The string that has these code points. There is none if a surrogate is among them. -/
def ofCodes? (us : Codes) : Option String :=
  if codes (ofCodes us) = us then some (ofCodes us) else none

def isBlankCode (u : Nat) : Bool := isBlank (codeChar u)

def trimCodes (us : Codes) : Codes := trimWhile isBlankCode us

theorem isSurrogate_toNat (c : Char) : isSurrogate c.toNat = false := by
  have h := c.valid
  simp only [isSurrogate, isHighSurrogate, isLowSurrogate, UInt32.isValidChar, Nat.isValidChar,
    Char.toNat] at *
  rw [Bool.or_eq_false_iff, Bool.and_eq_false_iff, Bool.and_eq_false_iff]
  simp only [decide_eq_false_iff_not]
  omega

theorem codeChar_toNat (c : Char) : codeChar c.toNat = c := by
  simp [codeChar, isSurrogate_toNat, Char.ofNat_toNat]

theorem ofCodes_codes (s : String) : ofCodes (codes s) = s := by
  have h : codeChar ∘ Char.toNat = id := funext codeChar_toNat
  rw [ofCodes, codes, List.map_map, h, List.map_id, String.ofList_toList]

theorem ofCodes?_eq_some_iff {us : Codes} {s : String} : ofCodes? us = some s ↔ codes s = us := by
  constructor
  · intro h
    rw [ofCodes?] at h
    split at h
    · cases h
      assumption
    · cases h
  · intro h
    rw [ofCodes?, ← h, ofCodes_codes]
    exact if_pos rfl

end DeskCalculator.Text
