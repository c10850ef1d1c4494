import Mathlib.Data.Nat.Log
import Mathlib.Tactic.Ring
import Mathlib.Tactic.Linarith

/-!
# Decimal texts of quotients

A quotient of two whole numbers, computed in double precision and written with a fixed number of digits
behind the point. It is rounded twice, first to 53 significant bits and then to the digits, each time to
nearest and on a tie to even. As long as the scale of the double exceeds that of the digits, the text is
still within half a digit of the quotient.
-/

namespace Framework

def roundHalfEven (numerator denominator : Nat) : Nat :=
  let quotient := numerator / denominator
  let remainder := numerator % denominator
  if denominator < 2 * remainder ∨ (2 * remainder = denominator ∧ quotient % 2 = 1) then quotient + 1
  else quotient

theorem roundHalfEven_near (numerator : Nat) {denominator : Nat} (hpos : 0 < denominator) :
    2 * (roundHalfEven numerator denominator * denominator) ≤ 2 * numerator + denominator ∧
      2 * numerator ≤ 2 * (roundHalfEven numerator denominator * denominator) + denominator := by
  have hdivision := Nat.div_add_mod' numerator denominator
  have hremainder := Nat.mod_lt numerator hpos
  simp only [roundHalfEven]
  split
  next hup =>
    rw [Nat.add_mul, Nat.one_mul]
    constructor <;> omega
  next hdown => constructor <;> omega

/-- A double is its significand over a power of two. -/
structure Scaled where
  significand : Nat
  scale : Nat

/-- The power of two that leaves a quotient 53 bits. -/
def doubleScale (numerator denominator : Nat) : Nat :=
  let scale := 53 + denominator.log2 - numerator.log2
  if 2 ^ 53 * denominator ≤ numerator * 2 ^ scale then scale - 1 else scale

/-- The quotient in double precision, of numbers so small that the scale is not negative. -/
def doubleQuotient (numerator denominator : Nat) : Scaled where
  significand :=
    roundHalfEven (numerator * 2 ^ doubleScale numerator denominator) denominator
  scale := doubleScale numerator denominator

/-- The digits of a double with so many of them behind the point, read as a whole number. -/
def Scaled.fixedDigits (x : Scaled) (precision : Nat) : Nat :=
  roundHalfEven (x.significand * 10 ^ precision) (2 ^ x.scale)

/-- Both roundings together are still off by one half at most. -/
theorem fixedDigits_near (numerator : Nat) {denominator precision : Nat} (hpos : 0 < denominator)
    (hscale : denominator * 10 ^ precision < 2 ^ doubleScale numerator denominator) :
    let digits := (doubleQuotient numerator denominator).fixedDigits precision
    2 * (digits * denominator) ≤ 2 * (numerator * 10 ^ precision) + denominator ∧
      2 * (numerator * 10 ^ precision) ≤ 2 * (digits * denominator) + denominator := by
  intro digits
  obtain ⟨hhigh, hlow⟩ := roundHalfEven_near
    (numerator * 2 ^ doubleScale numerator denominator) hpos
  obtain ⟨hdigitsHigh, hdigitsLow⟩ := roundHalfEven_near
    ((doubleQuotient numerator denominator).significand * 10 ^ precision)
    (Nat.two_pow_pos (doubleScale numerator denominator))
  have hdigits : digits = roundHalfEven
      ((doubleQuotient numerator denominator).significand * 10 ^ precision)
      (2 ^ doubleScale numerator denominator) := rfl
  have hsignificand : (doubleQuotient numerator denominator).significand =
      roundHalfEven (numerator * 2 ^ doubleScale numerator denominator) denominator := rfl
  rw [← hdigits] at hdigitsHigh hdigitsLow
  rw [← hsignificand] at hhigh hlow
  generalize (doubleQuotient numerator denominator).significand = significand at *
  generalize 2 ^ doubleScale numerator denominator = unit at *
  generalize 10 ^ precision = power at *
  clear_value digits
  -- the two errors, brought to the common denominator
  have hfirst : 2 * (significand * denominator) * power ≤ (2 * (numerator * unit) + denominator) * power ∧
      2 * (numerator * unit) * power ≤ (2 * (significand * denominator) + denominator) * power :=
    ⟨Nat.mul_le_mul_right _ hhigh, Nat.mul_le_mul_right _ hlow⟩
  have hsecond : 2 * (digits * unit) * denominator ≤ (2 * (significand * power) + unit) * denominator ∧
      2 * (significand * power) * denominator ≤ (2 * (digits * unit) + unit) * denominator :=
    ⟨Nat.mul_le_mul_right _ hdigitsHigh, Nat.mul_le_mul_right _ hdigitsLow⟩
  have hstrict (a b : Nat) (h : a * unit ≤ b * unit + denominator * power) : a ≤ b := by
    by_contra hlt
    have hnext : (b + 1) * unit ≤ a * unit := Nat.mul_le_mul_right _ (by omega)
    rw [Nat.add_mul, Nat.one_mul] at hnext
    omega
  constructor
  · apply hstrict
    nlinarith [hfirst.1, hsecond.1]
  · apply hstrict
    nlinarith [hfirst.2, hsecond.2]

theorem le_doubleScale {numerator bits : Nat} (denominator : Nat) (hbits : numerator < 2 ^ bits)
    (hpos : 0 < bits) : 53 + denominator.log2 - bits ≤ doubleScale numerator denominator := by
  have hlog : numerator.log2 < bits := by
    by_cases hzero : numerator = 0
    · rw [hzero]
      exact hpos
    · exact (Nat.log2_lt hzero).mpr hbits
  simp only [doubleScale]
  split <;> omega

def paddedDigits : Nat → Nat → List Char
  | 0, _ => []
  | width + 1, n => paddedDigits width (n / 10) ++ [(n % 10).digitChar]

theorem length_paddedDigits (width n : Nat) : (paddedDigits width n).length = width := by
  induction width generalizing n with
  | zero => rfl
  | succ width ih => rw [paddedDigits, List.length_append, ih, List.length_singleton]

theorem ofDigitChars_paddedDigits (width n start : Nat) :
    Nat.ofDigitChars 10 (paddedDigits width n) start = 10 ^ width * start + n % 10 ^ width := by
  induction width generalizing n with
  | zero => simp [paddedDigits, Nat.mod_one]
  | succ width ih =>
      rw [paddedDigits, Nat.ofDigitChars_append, ih,
        Nat.ofDigitChars_cons_digitChar_of_lt_ten (Nat.mod_lt n (by decide)), Nat.ofDigitChars_nil,
        Nat.pow_succ', Nat.mod_mul, Nat.mul_add, Nat.mul_assoc]
      omega

def pointText (precision digits : Nat) : List Char :=
  Nat.toDigits 10 (digits / 10 ^ precision) ++ '.' :: paddedDigits precision digits

/-- The text of a quotient, as a stream writes it that is set to `fixed`. -/
def fixedText (precision numerator denominator : Nat) : List Char :=
  pointText precision ((doubleQuotient numerator denominator).fixedDigits precision)

def readPoint (text : List Char) : Nat :=
  Nat.ofDigitChars 10 (text.filter fun c => c != '.') 0

theorem isDigit_of_mem_paddedDigits {width n : Nat} {c : Char} (h : c ∈ paddedDigits width n) :
    c.isDigit = true := by
  induction width generalizing n with
  | zero => cases h
  | succ width ih =>
      rcases List.mem_append.mp h with h | h
      · exact ih h
      · have hlt : n % 10 < 10 := Nat.mod_lt n (by decide)
        rw [List.mem_singleton.mp h]
        generalize n % 10 = digit at hlt
        revert digit
        decide

theorem mem_pointText {precision digits : Nat} {c : Char} (h : c ∈ pointText precision digits) :
    c.isDigit = true ∨ c = '.' := by
  rcases List.mem_append.mp h with h | h
  · exact .inl (Nat.isDigit_of_mem_toDigits (by decide) (by decide) h)
  · rcases List.mem_cons.mp h with h | h
    · exact .inr h
    · exact .inl (isDigit_of_mem_paddedDigits h)

theorem toNat_lt_of_mem_pointText {precision digits : Nat} {c : Char}
    (h : c ∈ pointText precision digits) : c.toNat < 128 := by
  rcases mem_pointText h with h | rfl
  · have hlast : c.val ≤ 57 := (Bool.and_eq_true_iff.mp h).2 |> of_decide_eq_true
    have hnat : c.toNat ≤ 57 := hlast
    omega
  · decide

theorem readPoint_pointText (precision digits : Nat) :
    readPoint (pointText precision digits) = digits := by
  have hkeep {text : List Char} (h : '.' ∉ text) : text.filter (fun c => c != '.') = text :=
    List.filter_eq_self.mpr fun c hc => bne_iff_ne.mpr fun heq => h (heq ▸ hc)
  have hfirst : '.' ∉ Nat.toDigits 10 (digits / 10 ^ precision) := by
    intro h
    have hdigit := Nat.isDigit_of_mem_toDigits (by decide) (by decide) h
    cases hdigit
  have hlast : '.' ∉ paddedDigits precision digits := by
    intro h
    have hdigit := isDigit_of_mem_paddedDigits h
    cases hdigit
  rw [readPoint, pointText, List.filter_append, List.filter_cons, if_neg (by decide), hkeep hfirst,
    hkeep hlast, Nat.ofDigitChars_append, Nat.ofDigitChars_ten_toDigits,
    ofDigitChars_paddedDigits]
  exact Nat.div_add_mod digits (10 ^ precision)

theorem length_pointText {precision digits width : Nat} (hwidth : 0 < width)
    (h : digits < 10 ^ (width + precision)) :
    (pointText precision digits).length ≤ width + 1 + precision := by
  have hfirst : (Nat.toDigits 10 (digits / 10 ^ precision)).length ≤ width := by
    rw [Nat.length_toDigits_le_iff (by decide) hwidth, Nat.div_lt_iff_lt_mul (Nat.pow_pos (by decide)),
      ← Nat.pow_add]
    exact h
  rw [pointText, List.length_append, List.length_cons, length_paddedDigits]
  omega

end Framework
