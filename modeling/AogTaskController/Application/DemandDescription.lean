import Mathlib
import AogTaskController.Framework.MaximalRuns

/-!
# The description of the section demand

The log names the sections that are on as ranges: "4 on: 3-6". One loop counts them and finds the
ranges; nothing of the demand is lost in the text.
-/

namespace AogTaskController.Application

open Framework

/-- `while ((last + 1 < count) && demand[last + 1]) last++;`, for as many iterations at most as are
left. -/
def lastOfRange (demand : List Bool) (count : Nat) : Nat → Nat → Nat
  | 0, last => last
  | left + 1, last =>
      if last + 1 < count && demand.getD (last + 1) false then
        lastOfRange demand count left (last + 1)
      else last

def describeSection (demand : List Bool) (count : Nat) (x : Nat × String) (i : Nat) :
    Nat × String :=
  if !demand.getD i false || 0 < i && demand.getD (i - 1) false then
    (x.1 + if demand.getD i false then 1 else 0, x.2)
  else
    let last := lastOfRange demand count count i
    let ranges := x.2 ++ ((if x.1 = 0 then "" else ",") ++ toString (i + 1))
    let ranges := if i < last then ranges ++ ("-" ++ toString (last + 1)) else ranges
    (x.1 + 1, ranges)

def describeSections (demand : List Bool) (count : Nat) : Nat × String :=
  (List.range count).foldl (describeSection demand count) (0, "")

def demandCount (demand : List Bool) (numberOfSections : UInt8) : Nat :=
  if numberOfSections = 0 then demand.length else min numberOfSections.toNat demand.length

def describeSectionDemand (demand : List Bool) (numberOfSections : UInt8) : String :=
  let x := describeSections demand (demandCount demand numberOfSections)
  if x.1 = 0 then "all off" else toString x.1 ++ " on: " ++ x.2

def IsOn (demand : List Bool) (count k : Nat) : Prop := k < count ∧ demand.getD k false = true

def rangeText (r : Run) : String :=
  toString (r.first + 1) ++ if r.first < r.last then "-" ++ toString (r.last + 1) else ""

/-! What a reader of the log makes of the text. -/

def readNumber (text : List Char) : Option Nat :=
  if text ≠ [] ∧ text.all Char.isDigit then some (Nat.ofDigitChars 10 text 0) else none

/-- "3-6", or "8" for a single section. -/
def readRange (text : List Char) : Option Run :=
  match text.splitOn '-' with
  | [number] => (readNumber number).map fun k => ⟨k, k⟩
  | [first, last] => do some ⟨← readNumber first, ← readNumber last⟩
  | _ => none

def readSectionDemand (text : String) : Option (Nat × List Run) :=
  match text.toList.splitOn ' ' with
  | [number, ['o', 'n', ':'], ranges] => do
      some (← readNumber number, ← (ranges.splitOn ',').mapM readRange)
  | _ => none

section Scan

variable {demand : List Bool} {count : Nat}

private theorem lastOfRange_spec (left : Nat) {last : Nat} (hleft : count ≤ last + left)
    (hlast : IsOn demand count last) :
    last ≤ lastOfRange demand count left last ∧
      (∀ k, last ≤ k → k ≤ lastOfRange demand count left last → IsOn demand count k) ∧
      ¬ IsOn demand count (lastOfRange demand count left last + 1) := by
  induction left generalizing last with
  | zero => exact absurd hlast.1 (by omega)
  | succ left ih =>
      rw [lastOfRange]
      by_cases hnext : IsOn demand count (last + 1)
      · obtain ⟨hle, hrange, hstops⟩ := ih (by omega) hnext
        rw [if_pos (by simpa [IsOn] using hnext)]
        refine ⟨by omega, fun k hk hk' => ?_, hstops⟩
        rcases Nat.lt_or_eq_of_le hk with hlt | rfl
        · exact hrange k hlt hk'
        · exact hlast
      · rw [if_neg (by simpa [IsOn] using hnext)]
        refine ⟨Nat.le_refl _, fun k hk hk' => ?_, hnext⟩
        rwa [Nat.le_antisymm hk' hk]

/-- The locals before position `i`: the number of sections that are on below it and the text of the
ranges that begin below it. -/
structure DescribedBelow (demand : List Bool) (count i : Nat) (x : Nat × String) (runs : List Run) :
    Prop where
  number : x.1 = (demand.take i).count true
  text : x.2 = ",".intercalate (runs.map rangeText)
  runs : RunsBelow (IsOn demand count) i runs

private theorem count_take_succ (demand : List Bool) (i : Nat) :
    (demand.take (i + 1)).count true =
      (demand.take i).count true + if demand.getD i false then 1 else 0 := by
  rw [List.take_add_one, List.count_append, List.getD_eq_getElem?_getD]
  match demand[i]? with
  | none => rfl
  | some true => rfl
  | some false => rfl

private theorem count_take_eq_zero_iff (demand : List Bool) (i : Nat) :
    (demand.take i).count true = 0 ↔ ∀ k < i, demand.getD k false = false := by
  induction i with
  | zero => simp
  | succ i ih =>
      rw [count_take_succ, Nat.add_eq_zero_iff, ih, Nat.forall_lt_succ_right]
      simp

private theorem DescribedBelow.number_eq_zero_iff {i : Nat} {x : Nat × String} {runs : List Run}
    (h : DescribedBelow demand count i x runs) (hi : i ≤ count) : x.1 = 0 ↔ runs = [] := by
  rw [h.number, h.runs.eq_nil_iff, count_take_eq_zero_iff]
  apply forall₂_congr
  intro k hk
  rw [IsOn, and_iff_right (by omega), Bool.not_eq_true]

private theorem intercalate_concat {s t : String} {l : List String} :
    s.intercalate (l ++ [t]) = s.intercalate l ++ ((if l = [] then "" else s) ++ t) := by
  by_cases hl : l = []
  · rw [hl, if_pos rfl]
    simp
  · rw [if_neg hl, String.intercalate_append_of_ne_nil hl (List.cons_ne_nil _ _),
      String.intercalate_singleton, String.append_assoc]

/-- The step of the scan: a section that is off or continues a range only counts, one that begins a
range adds it. -/
theorem DescribedBelow.step {i : Nat} {x : Nat × String} {runs : List Run}
    (h : DescribedBelow demand count i x runs) (hi : i < count) :
    ∃ runs', DescribedBelow demand count (i + 1) (describeSection demand count x i) runs' := by
  have hbefore : 0 < i → (IsOn demand count (i - 1) ↔ demand.getD (i - 1) false = true) :=
    fun hpos => and_iff_right (by omega)
  rw [describeSection]
  by_cases hskip : demand.getD i false = true → 0 < i ∧ demand.getD (i - 1) false = true
  · rw [if_pos (by
      simp only [Bool.or_eq_true, Bool.not_eq_true', Bool.and_eq_true, decide_eq_true_eq]
      cases hon : demand.getD i false with
      | true => exact .inr (hskip hon)
      | false => exact .inl rfl)]
    refine ⟨runs, ?_, h.text, h.runs.skip fun hon => ?_⟩
    · rw [count_take_succ, h.number]
    · obtain ⟨hpos, hprevious⟩ := hskip hon.2
      exact ⟨hpos, (hbefore hpos).mpr hprevious⟩
  · obtain ⟨hon, hbegins⟩ := Classical.not_imp.mp hskip
    obtain ⟨hle, hrange, hstops⟩ :=
      lastOfRange_spec count (Nat.le_add_left count i) ⟨hi, hon⟩
    rw [if_neg (by
      rw [hon, Bool.not_true, Bool.false_or, Bool.and_eq_true, decide_eq_true_eq]
      exact hbegins)]
    refine ⟨runs ++ [⟨i, lastOfRange demand count count i⟩], ?_, ?_,
      h.runs.begin (fun hpos hprevious => ?_) hle hrange hstops⟩
    · rw [count_take_succ, h.number, if_pos hon]
    · rw [List.map_append, List.map_singleton, intercalate_concat, ← h.text, rangeText]
      have hnil : runs.map rangeText = [] ↔ x.1 = 0 := by
        rw [List.map_eq_nil_iff, h.number_eq_zero_iff (Nat.le_of_lt hi)]
      simp only [hnil]
      split <;> simp [String.append_assoc]
    · exact hbegins ⟨hpos, (hbefore hpos).mp hprevious⟩

private theorem describedBelow_scan (demand : List Bool) (count i : Nat) (hi : i ≤ count) :
    ∃ runs, DescribedBelow demand count i
      ((List.range i).foldl (describeSection demand count) (0, "")) runs := by
  induction i with
  | zero => exact ⟨[], rfl, rfl, .nil⟩
  | succ i ih =>
      obtain ⟨runs, h⟩ := ih (Nat.le_of_succ_le hi)
      rw [List.range_succ, List.foldl_append]
      exact h.step hi

end Scan

section Reader

private theorem notMem_toDigits {n : Nat} {c : Char} (hc : c.isDigit = false) :
    c ∉ Nat.toDigits 10 n := by
  intro hmem
  rw [Nat.isDigit_of_mem_toDigits (by decide) (by decide) hmem] at hc
  cases hc

private theorem readNumber_toDigits (n : Nat) : readNumber (Nat.toDigits 10 n) = some n := by
  have hdigits : (Nat.toDigits 10 n).all Char.isDigit = true :=
    List.all_eq_true.mpr fun c hc => Nat.isDigit_of_mem_toDigits (by decide) (by decide) hc
  rw [readNumber, if_pos ⟨Nat.toDigits_ne_nil, hdigits⟩, Nat.ofDigitChars_ten_toDigits]

private theorem rangeText_toList (r : Run) :
    (rangeText r).toList = ['-'].intercalate (if r.first < r.last then
      [Nat.toDigits 10 (r.first + 1), Nat.toDigits 10 (r.last + 1)]
      else [Nat.toDigits 10 (r.first + 1)]) := by
  rw [rangeText]
  split
  · simp [List.intercalate_cons_cons]
  · simp

private theorem notMem_rangeText {r : Run} {c : Char} (hc : c.isDigit = false) (hdash : c ≠ '-') :
    c ∉ (rangeText r).toList := by
  rw [rangeText]
  split <;> simp [notMem_toDigits hc, hdash]

private theorem readRange_rangeText {r : Run} (hr : r.first ≤ r.last) :
    readRange (rangeText r).toList = some r.shift := by
  have hdash (n : Nat) : '-' ∉ Nat.toDigits 10 n := notMem_toDigits (by decide)
  rw [readRange, rangeText_toList]
  by_cases hlt : r.first < r.last
  · rw [if_pos hlt, List.splitOn_intercalate '-' (by simp [hdash]) (by simp)]
    simp [readNumber_toDigits, Run.shift]
  · rw [if_neg hlt, List.splitOn_intercalate '-' (by simp [hdash]) (by simp)]
    simp only [readNumber_toDigits, Option.map_some, Run.shift]
    rw [Nat.le_antisymm hr (Nat.le_of_not_lt hlt)]

private theorem notMem_intercalate {c : Char} {separator : List Char} {l : List (List Char)}
    (hseparator : c ∉ separator) (hl : ∀ t ∈ l, c ∉ t) : c ∉ separator.intercalate l := by
  induction l with
  | nil => simp
  | cons t l ih =>
      have hrest := ih fun u hu => hl u (List.mem_cons_of_mem t hu)
      have ht := hl t List.mem_cons_self
      cases l with
      | nil => simpa using ht
      | cons u l =>
          rw [List.intercalate_cons_of_ne_nil (List.cons_ne_nil u l)]
          simp only [List.mem_append, not_or]
          exact ⟨⟨ht, hseparator⟩, hrest⟩

private theorem mapM_readRange {runs : List Run} (hruns : ∀ r ∈ runs, r.first ≤ r.last) :
    (runs.map fun r => (rangeText r).toList).mapM readRange = some (runs.map Run.shift) := by
  induction runs with
  | nil => rfl
  | cons r runs ih =>
      have hr := readRange_rangeText (hruns r List.mem_cons_self)
      have hrest := ih fun s hs => hruns s (List.mem_cons_of_mem r hs)
      simp [hr, hrest]

private theorem readSectionDemand_text {n : Nat} {runs : List Run} (hne : runs ≠ [])
    (hruns : ∀ r ∈ runs, r.first ≤ r.last) :
    readSectionDemand (toString n ++ " on: " ++ ",".intercalate (runs.map rangeText)) =
      some (n, runs.map Run.shift) := by
  obtain ⟨texts, htexts⟩ : ∃ texts, texts = runs.map fun r => (rangeText r).toList := ⟨_, rfl⟩
  have hmem {c : Char} (hc : c.isDigit = false) (hdash : c ≠ '-') : ∀ t ∈ texts, c ∉ t := by
    intro t ht
    rw [htexts] at ht
    obtain ⟨r, _, rfl⟩ := List.mem_map.mp ht
    exact notMem_rangeText hc hdash
  have hspace : ' ' ∉ [','].intercalate texts :=
    notMem_intercalate (by decide) (hmem (by decide) (by decide))
  have hchars : (toString n ++ " on: " ++ ",".intercalate (runs.map rangeText)).toList =
      [' '].intercalate [Nat.toDigits 10 n, ['o', 'n', ':'], [','].intercalate texts] := by
    simp [List.intercalate_cons_cons, htexts, Function.comp_def]
  have hcommas : ([','].intercalate texts).splitOn ',' = texts :=
    List.splitOn_intercalate ',' (hmem (by decide) (by decide)) (by simpa [htexts] using hne)
  rw [readSectionDemand, hchars, List.splitOn_intercalate ' '
    (by simp [notMem_toDigits (show (' ').isDigit = false by decide), hspace]) (by simp)]
  have hranges := mapM_readRange hruns
  rw [← htexts] at hranges
  simp [readNumber_toDigits, hcommas, hranges]

end Reader

/-- The description says "all off" exactly when no section that counts is on; else its reader gets
the number of sections that are on, and ranges in order and with gaps between them that cover these
sections and no others. -/
theorem describeSectionDemand_lossless (demand : List Bool) (numberOfSections : UInt8) :
    (describeSectionDemand demand numberOfSections = "all off" ↔
      ∀ k < demandCount demand numberOfSections, demand.getD k false = false) ∧
    (describeSectionDemand demand numberOfSections ≠ "all off" → ∃ ranges,
      readSectionDemand (describeSectionDemand demand numberOfSections) =
        some ((demand.take (demandCount demand numberOfSections)).count true, ranges) ∧
      (∀ r ∈ ranges, r.first ≤ r.last) ∧ ranges.Pairwise Run.Before ∧
      ∀ sect, (∃ r ∈ ranges, r.Covers sect) ↔
        0 < sect ∧ sect ≤ demandCount demand numberOfSections ∧
          demand.getD (sect - 1) false = true) := by
  rw [describeSectionDemand]
  generalize demandCount demand numberOfSections = count
  obtain ⟨runs, h⟩ := describedBelow_scan demand count count (Nat.le_refl count)
  rw [← describeSections] at h
  have hall : ∀ k, IsOn demand count k → k < count := fun k hk => hk.1
  by_cases hzero : (describeSections demand count).1 = 0
  · simp only [if_pos hzero]
    refine ⟨iff_of_true trivial ?_, fun hne => absurd rfl hne⟩
    rwa [← count_take_eq_zero_iff, ← h.number]
  · simp only [if_neg hzero]
    have hread : readSectionDemand (toString (describeSections demand count).1 ++ " on: " ++
        (describeSections demand count).2) =
        some ((demand.take count).count true, runs.map Run.shift) := by
      rw [h.text, h.number]
      exact readSectionDemand_text (mt (h.number_eq_zero_iff (Nat.le_refl count)).mpr hzero)
        fun r hr => (h.runs.begun r hr).1
    have hne : toString (describeSections demand count).1 ++ " on: " ++
        (describeSections demand count).2 ≠ "all off" := by
      intro htext
      have hoff : readSectionDemand "all off" = none := by decide
      rw [htext, hoff] at hread
      cases hread
    refine ⟨iff_of_false hne ?_, fun _ =>
      ⟨runs.map Run.shift, hread, h.runs.begun_shift, h.runs.ordered_shift, fun sect => ?_⟩⟩
    · rwa [← count_take_eq_zero_iff, ← h.number]
    · rw [h.runs.covers_shift_iff hall, IsOn]
      apply and_congr_right
      intro hpos
      rw [Nat.sub_lt_iff_lt_add hpos, Nat.lt_add_one_iff]

example : describeSectionDemand [false, false, true, true, true, true, false, true] 0 =
    "5 on: 3-6,8" := by
  decide

end AogTaskController.Application
