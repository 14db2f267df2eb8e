import Mathlib
import DeviceAccess.Json.Printer
import DeviceAccess.Json.Strict

/-!
# Characters that are written

What stands between the quotes of a text and what stands around texts, for every reader of what is
written. A character between quotes is written in one of three ways: behind a backslash by a letter
of its own, by its number if it is another control, and else as it is (`isEscaped_escapeChar`). Six
characters are marks by themselves (`mem_marks`).
-/

namespace DeviceAccess.Json

open Text

/-! ## §1 Marks -/

/-- The characters that are marks by themselves. -/
def marks : List Char := ['[', ']', '{', '}', ',', ':']

theorem mem_marks {κ α : Type} {c : Char} {mark : Token κ α} (hmark : mark? c = some mark) :
    c ∈ marks := by
  unfold mark? at hmark
  split at hmark
  all_goals first | decide | cases hmark

/-! ## §2 Between quotes -/

/-- The ways to write a character between quotes. -/
inductive IsEscaped : Char → List Char → Prop where
  | letter {e : Char} (h : e ∈ escapeLetters) : IsEscaped (escaped e) ['\\', e]
  | number {c a b d e : Char} (hcontrol : c.toNat < 0x20)
      (hdigits : [a, b, d, e].all isHexDigit = true) (hvalue : digitsValue 16 [a, b, d, e] = c.toNat) :
      IsEscaped c ['\\', 'u', a, b, d, e]
  | plain {c : Char} (hcontrol : 0x20 ≤ c.toNat) (hquote : c ≠ '"') (hbackslash : c ≠ '\\') :
      IsEscaped c [c]

/-- The number of a control is that of no half of a pair. -/
theorem not_half_of_control {n : Nat} (hn : n < 0x20) :
    isHighHalf n = false ∧ isLowHalf n = false := by
  simp only [isHighHalf, isLowHalf, Bool.and_eq_false_iff, decide_eq_false_iff_not]
  omega

/-- The number of a control has four digits. -/
theorem isEscaped_hexText {c : Char} (hcontrol : c.toNat < 0x20) :
    IsEscaped c (['\\', 'u'] ++ hexText 4 c.toNat) := by
  have hall : ∀ n < 0x20, (hexText 4 n).length = 4 ∧ (hexText 4 n).all isHexDigit = true ∧
      digitsValue 16 (hexText 4 n) = n := by
    decide
  obtain ⟨hlength, hdigits, hvalue⟩ := hall c.toNat hcontrol
  match hexText 4 c.toNat, hlength, hdigits, hvalue with
  | [a, b, d, e], _, hdigits, hvalue => exact .number hcontrol hdigits hvalue

theorem isEscaped_escapeChar (c : Char) : IsEscaped c (escapeChar c) := by
  unfold escapeChar
  split
  -- the characters with a letter of their own
  · exact .letter (e := '"') (by decide)
  · exact .letter (e := '\\') (by decide)
  · exact .letter (e := 'n') (by decide)
  · exact .letter (e := 'r') (by decide)
  · exact .letter (e := 't') (by decide)
  · exact .letter (e := 'b') (by decide)
  · exact .letter (e := 'f') (by decide)
  · rename_i hquote hbackslash _ _ _ _ _
    split
    · rename_i hcontrol
      exact isEscaped_hexText hcontrol
    · rename_i hcontrol
      exact .plain (Nat.le_of_not_lt hcontrol) hquote hbackslash

end DeviceAccess.Json
