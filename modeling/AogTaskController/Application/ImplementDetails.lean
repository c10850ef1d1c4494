import AogTaskController.Framework.AsciiText

/-!
# What is shown of an implement

Its name, its sections and its measures, taken from the objects that it has uploaded. The geometry is
what the stack makes of them; a measure that is not there is `none`.
-/

namespace AogTaskController.Application

open Framework

structure SectionGeometry where
  widthMm : Option Int

structure SubBoomGeometry where
  widthMm : Option Int
  sections : List SectionGeometry

structure BoomGeometry where
  xOffsetMm : Option Int
  yOffsetMm : Option Int
  sections : List SectionGeometry
  subBooms : List SubBoomGeometry

structure ImplementDetails where
  displayName : Bytes := ascii "No implement"
  sections : UInt8 := 0
  widthText : Bytes := []
  boomOffsetText : Bytes := []
  deriving DecidableEq

def addSection (total : Int) (part : SectionGeometry) : Int := total + part.widthMm.getD 0

/-- The width of a sub-boom counts only where it has no sections. -/
def addSubBoom (total : Int) (subBoom : SubBoomGeometry) : Int :=
  subBoom.sections.foldl addSection
    (if subBoom.sections.isEmpty then total + subBoom.widthMm.getD 0 else total)

def addBoom (total : Int) (boom : BoomGeometry) : Int :=
  boom.subBooms.foldl addSubBoom (boom.sections.foldl addSection total)

def totalWidthMillimetres (booms : List BoomGeometry) : Int := booms.foldl addBoom 0

def widthTextOf (booms : List BoomGeometry) : Bytes :=
  if 0 < totalWidthMillimetres booms then
    asciiBytes (fixedText 2 (totalWidthMillimetres booms).toNat 1000)
  else []

def offsetText (axis : String) (offsetMm : Option Int) : Bytes :=
  match offsetMm with
  | none => ascii (axis ++ ":n/a")
  | some mm =>
      ascii (axis ++ ":" ++ if mm < 0 then "-" else "+") ++ asciiBytes (fixedText 2 mm.natAbs 1000)

def boomOffsetTextOf (booms : List BoomGeometry) : Bytes :=
  match booms with
  | [] => []
  | boom :: _ =>
      if boom.xOffsetMm.isSome || boom.yOffsetMm.isSome then
        offsetText "X" boom.xOffsetMm ++ ascii " " ++ offsetText "Y" boom.yOffsetMm
      else []

def deriveImplementDetails (numberOfSections : UInt8) (designator : Option Bytes)
    (booms : List BoomGeometry) : ImplementDetails where
  displayName := if (designator.getD []).isEmpty then ascii "No implement" else designator.getD []
  sections := numberOfSections
  widthText := widthTextOf booms
  boomOffsetText := boomOffsetTextOf booms

def SubBoomGeometry.widths (subBoom : SubBoomGeometry) : List Int :=
  (if subBoom.sections.isEmpty then subBoom.widthMm.toList else []) ++
    subBoom.sections.filterMap (·.widthMm)

def BoomGeometry.widths (boom : BoomGeometry) : List Int :=
  boom.sections.filterMap (·.widthMm) ++ boom.subBooms.flatMap (·.widths)

/-- The widths of the sections, and of the sub-booms without sections, in the order of the loops. -/
def measuredWidths (booms : List BoomGeometry) : List Int := booms.flatMap (·.widths)

def measuredWidth (booms : List BoomGeometry) : Int := (measuredWidths booms).foldl (· + ·) 0

/-- The code adds in a signed number of 32 bits. Its sums are defined as long as none of them, from
first to last, leaves that range. -/
def WidthsFit (booms : List BoomGeometry) : Prop :=
  ∀ n ≤ (measuredWidths booms).length,
    -2 ^ 31 ≤ ((measuredWidths booms).take n).foldl (· + ·) 0 ∧
      ((measuredWidths booms).take n).foldl (· + ·) 0 < 2 ^ 31

instance (booms : List BoomGeometry) : Decidable (WidthsFit booms) :=
  inferInstanceAs (Decidable (∀ n ≤ (measuredWidths booms).length, _ ∧ _))

theorem WidthsFit.measuredWidth_lt {booms : List BoomGeometry} (h : WidthsFit booms) :
    measuredWidth booms < 2 ^ 31 := by
  have hall := (h _ le_rfl).2
  rwa [List.take_length] at hall

private theorem foldl_addSection (total : Int) (parts : List SectionGeometry) :
    parts.foldl addSection total = (parts.filterMap (·.widthMm)).foldl (· + ·) total := by
  induction parts generalizing total with
  | nil => rfl
  | cons part parts ih =>
      rw [List.foldl_cons, ih, addSection, List.filterMap_cons]
      cases part.widthMm with
      | none => rw [Option.getD_none, Int.add_zero]
      | some width => rfl

private theorem addSubBoom_eq (total : Int) (subBoom : SubBoomGeometry) :
    addSubBoom total subBoom = subBoom.widths.foldl (· + ·) total := by
  rw [addSubBoom, foldl_addSection, SubBoomGeometry.widths, List.foldl_append]
  cases subBoom.sections.isEmpty with
  | false => rfl
  | true =>
      cases subBoom.widthMm with
      | none => simp only [if_true, Option.getD_none, Int.add_zero, Option.toList_none, List.foldl_nil]
      | some width => rfl

private theorem foldl_add_widths {part : Type} {add : Int → part → Int} {widths : part → List Int}
    (hadd : ∀ total p, add total p = (widths p).foldl (· + ·) total) (total : Int)
    (parts : List part) : parts.foldl add total = (parts.flatMap widths).foldl (· + ·) total := by
  induction parts generalizing total with
  | nil => rfl
  | cons p parts ih => rw [List.foldl_cons, ih, hadd, List.flatMap_cons, List.foldl_append]

theorem totalWidthMillimetres_eq (booms : List BoomGeometry) :
    totalWidthMillimetres booms = measuredWidth booms := by
  refine foldl_add_widths (fun total boom => ?_) 0 booms
  rw [addBoom, foldl_addSection, foldl_add_widths addSubBoom_eq, BoomGeometry.widths,
    List.foldl_append]

/-- The number of centimetres that a text in metres tells. -/
def readCentimetres (text : Bytes) : Nat := readPoint (asciiChars text)

private theorem doubleScale_metres {mm : Nat} (hmm : mm < 2 ^ 31) : 31 ≤ doubleScale mm 1000 :=
  le_trans (by decide) (le_doubleScale 1000 hmm (by decide))

/-- The text of a measure in metres is right to half a centimetre. -/
private theorem readCentimetres_metres {mm : Nat} (hmm : mm < 2 ^ 31) :
    10 * readCentimetres (asciiBytes (fixedText 2 mm 1000)) ≤ mm + 5 ∧
      mm ≤ 10 * readCentimetres (asciiBytes (fixedText 2 mm 1000)) + 5 := by
  have hscale : 1000 * 10 ^ 2 < 2 ^ doubleScale mm 1000 :=
    lt_of_lt_of_le (by decide) (Nat.pow_le_pow_right (by decide) (doubleScale_metres hmm))
  obtain ⟨hhigh, hlow⟩ := fixedDigits_near mm (by decide) hscale
  rw [readCentimetres, fixedText, asciiChars_asciiBytes fun c => toNat_lt_of_mem_pointText,
    readPoint_pointText]
  constructor <;> omega

theorem length_metres {mm : Nat} (hmm : mm < 2 ^ 31) :
    (asciiBytes (fixedText 2 mm 1000)).length ≤ 10 := by
  obtain ⟨hhigh, _⟩ := readCentimetres_metres hmm
  rw [readCentimetres, fixedText, asciiChars_asciiBytes fun c => toNat_lt_of_mem_pointText,
    readPoint_pointText] at hhigh
  rw [length_asciiBytes, fixedText]
  exact length_pointText (by decide) (by omega : _ < 10 ^ (7 + 2))

private theorem asciiBytes_fixedText_ne_nil (precision numerator denominator : Nat) :
    asciiBytes (fixedText precision numerator denominator) ≠ [] := by
  intro h
  have hlength := congrArg List.length h
  rw [length_asciiBytes, fixedText, pointText, List.length_append, List.length_cons] at hlength
  cases hlength

/-- The text of the width tells the measured width in metres, to half a centimetre. There is none where
no width is measured. -/
theorem widthText_tells_width (numberOfSections : UInt8) (designator : Option Bytes)
    (booms : List BoomGeometry) (hfit : WidthsFit booms) :
    let text := (deriveImplementDetails numberOfSections designator booms).widthText
    (text = [] ↔ measuredWidth booms ≤ 0) ∧
      (text ≠ [] → 10 * (readCentimetres text : Int) ≤ measuredWidth booms + 5 ∧
        measuredWidth booms ≤ 10 * (readCentimetres text : Int) + 5) := by
  intro text
  have htext : text = if 0 < measuredWidth booms then
      asciiBytes (fixedText 2 (measuredWidth booms).toNat 1000) else [] := by
    rw [← totalWidthMillimetres_eq]
    rfl
  rw [htext]
  by_cases hpositive : 0 < measuredWidth booms
  · rw [if_pos hpositive]
    have hrange := hfit.measuredWidth_lt
    have hmm : (measuredWidth booms).toNat < 2 ^ 31 := by omega
    obtain ⟨hhigh, hlow⟩ := readCentimetres_metres hmm
    refine ⟨iff_of_false (asciiBytes_fixedText_ne_nil _ _ _) (by omega), fun _ => ?_⟩
    omega
  · rw [if_neg hpositive]
    exact ⟨iff_of_true rfl (by omega), fun h => absurd rfl h⟩

/-- A boom of two sections, and a sub-boom that only has a width of its own. -/
def measuredBooms : List BoomGeometry :=
  [{ xOffsetMm := some (-2500)
     yOffsetMm := none
     sections := [⟨some 1505⟩, ⟨some 1500⟩]
     subBooms := [⟨some 3000, []⟩] }]

theorem widthText_measuredBooms :
    WidthsFit measuredBooms ∧
      (let text := (deriveImplementDetails 2 none measuredBooms).widthText
      (text = [] ↔ measuredWidth measuredBooms ≤ 0) ∧
        (text ≠ [] → 10 * (readCentimetres text : Int) ≤ measuredWidth measuredBooms + 5 ∧
          measuredWidth measuredBooms ≤ 10 * (readCentimetres text : Int) + 5)) :=
  ⟨by decide, widthText_tells_width 2 none measuredBooms (by decide)⟩

end AogTaskController.Application
