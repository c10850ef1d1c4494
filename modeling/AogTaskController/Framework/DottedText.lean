import Mathlib.Data.List.Basic

/-!
# Dotted texts

Bytes written in decimal with points between them, and read back. A part is read only if it is what a
byte is written as.
-/

namespace Framework

def dottedText (parts : List UInt8) : List Char :=
  ['.'].intercalate (parts.map fun part => Nat.toDigits 10 part.toNat)

/-- One to three digits, without a leading zero, of a number below 256. -/
def readPart (text : List Char) : Option UInt8 :=
  let value := Nat.ofDigitChars 10 text 0
  if text.all Char.isDigit && 1 ≤ text.length && text.length ≤ 3 &&
      (text.length == 1 || text.head? != some '0') && value < 256 then
    some (.ofNat value)
  else none

def readDotted (text : List Char) : Option (List UInt8) := (text.splitOn '.').mapM readPart

theorem readPart_toDigits (part : UInt8) : readPart (Nat.toDigits 10 part.toNat) = some part := by
  have hall : ∀ n < 256, readPart (Nat.toDigits 10 n) = some (.ofNat n) := by decide +kernel
  rw [hall _ part.toNat_lt, UInt8.ofNat_toNat]

theorem readDotted_dottedText {parts : List UInt8} (hparts : parts ≠ []) :
    readDotted (dottedText parts) = some parts := by
  have hpoint (text : List Char) (h : text ∈ parts.map fun part => Nat.toDigits 10 part.toNat) :
      '.' ∉ text := by
    obtain ⟨part, _, rfl⟩ := List.mem_map.mp h
    intro hmem
    cases Nat.isDigit_of_mem_toDigits (by decide) (by decide) hmem
  rw [readDotted, dottedText, List.splitOn_intercalate '.' hpoint (by simpa using hparts),
    List.mapM_map]
  have hsome : readPart ∘ (fun part : UInt8 => Nat.toDigits 10 part.toNat) = some :=
    funext readPart_toDigits
  rw [hsome]
  clear hpoint hparts
  induction parts with
  | nil => rfl
  | cons part parts ih => rw [List.mapM_cons, ih]; rfl

end Framework
