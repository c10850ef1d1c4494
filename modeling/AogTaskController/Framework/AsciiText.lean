import AogTaskController.Framework.DecimalText

/-!
# Texts as bytes

Texts are strings of bytes. Those that a program writes itself consist of ASCII characters, each of them
one byte.
-/

namespace Framework

abbrev Bytes := List UInt8

def asciiBytes (text : List Char) : Bytes := text.map fun c => UInt8.ofNat c.toNat

def asciiChars (text : Bytes) : List Char := text.map fun byte => Char.ofNat byte.toNat

def ascii (text : String) : Bytes := asciiBytes text.toList

def number (n : Nat) : Bytes := asciiBytes (Nat.toDigits 10 n)

/-- `std::setw` with `std::left`: what is longer than the field is not cut. -/
def padRight (width : Nat) (text : Bytes) : Bytes :=
  text ++ List.replicate (width - text.length) (UInt8.ofNat ' '.toNat)

@[simp] theorem length_asciiBytes (text : List Char) : (asciiBytes text).length = text.length :=
  List.length_map _

theorem asciiChars_asciiBytes {text : List Char} (h : ∀ c ∈ text, c.toNat < 128) :
    asciiChars (asciiBytes text) = text := by
  rw [asciiChars, asciiBytes, List.map_map]
  refine (List.map_congr_left fun c hc => ?_).trans (List.map_id text)
  have hbyte : (UInt8.ofNat c.toNat).toNat = c.toNat :=
    Nat.mod_eq_of_lt (Nat.lt_trans (h c hc) (by decide))
  show Char.ofNat (UInt8.ofNat c.toNat).toNat = c
  rw [hbyte, Char.ofNat_toNat]

theorem length_number_le {n : Nat} (digits : Nat) (hdigits : 0 < digits) (h : n < 10 ^ digits) :
    (number n).length ≤ digits := by
  rw [number, length_asciiBytes]
  exact (Nat.length_toDigits_le_iff (by decide) hdigits).mpr h

theorem length_padRight_le (width : Nat) {bound : Nat} {text : Bytes} (htext : text.length ≤ bound) :
    (padRight width text).length ≤ max width bound := by
  rw [padRight, List.length_append, List.length_replicate]
  omega

end Framework
