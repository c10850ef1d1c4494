import Mathlib.Data.List.Basic

/-!
# Blocks behind a lead element

A text made of blocks, each a lead element and the elements that continue it. A scan backwards over
continuations ends at the border of a block.
-/

namespace Framework

variable {β : Type*} {continues : β → Bool}

/-- A lead element and what continues it. -/
def IsBlock (continues : β → Bool) (block : List β) : Prop :=
  ∃ lead tail, block = lead :: tail ∧ continues lead = false ∧ ∀ x ∈ tail, continues x = true

/-- `while ((n > 0) && continues(text[n])) n--;` -/
def scanBack (continues : β → Bool) (text : List β) : Nat → Nat
  | 0 => 0
  | n + 1 => if text[n + 1]?.any continues then scanBack continues text n else n + 1

theorem scanBack_of_lead {text : List β} {n : Nat} (h : text[n]?.any continues = false) :
    scanBack continues text n = n := by
  cases n with
  | zero => rfl
  | succ n => rw [scanBack, h, if_neg Bool.false_ne_true]

theorem scanBack_of_continues {text : List β} {n : Nat} (h : text[n + 1]?.any continues = true) :
    scanBack continues text (n + 1) = scanBack continues text n := by
  rw [scanBack, if_pos h]

theorem scanBack_block (before after : List β) {block : List β} (hblock : IsBlock continues block)
    {j : Nat} (hj : j < block.length) :
    scanBack continues (before ++ block ++ after) (before.length + j) = before.length := by
  obtain ⟨lead, tail, rfl, hlead, htail⟩ := hblock
  have hget {k : Nat} (hk : k < (lead :: tail).length) :
      (before ++ (lead :: tail) ++ after)[before.length + k]? = (lead :: tail)[k]? := by
    rw [List.append_assoc, List.getElem?_append_right (Nat.le_add_right _ _),
      Nat.add_sub_cancel_left, List.getElem?_append_left hk]
  induction j with
  | zero =>
      apply scanBack_of_lead
      rw [hget hj]
      exact hlead
  | succ j ih =>
      have hcontinues : (tail[j]?).any continues = true := by
        have hjt : j < tail.length := by simpa using hj
        rw [List.getElem?_eq_getElem hjt]
        exact htail _ (List.getElem_mem hjt)
      rw [← Nat.add_assoc, scanBack_of_continues (by rwa [Nat.add_assoc, hget hj]),
        ih (Nat.lt_of_succ_lt hj)]

theorem exists_block_at {blocks : List (List β)} {n : Nat} (hn : n < blocks.flatten.length) :
    ∃ before block after, blocks = before ++ block :: after ∧ before.flatten.length ≤ n ∧
      n < before.flatten.length + block.length := by
  induction blocks generalizing n with
  | nil => cases hn
  | cons block blocks ih =>
      by_cases hfirst : n < block.length
      · exact ⟨[], block, blocks, rfl, Nat.zero_le n, by simpa using hfirst⟩
      · rw [List.flatten_cons, List.length_append] at hn
        obtain ⟨before, block', after, rfl, hle, hlt⟩ := ih (n := n - block.length) (by omega)
        refine ⟨block :: before, block', after, rfl, ?_, ?_⟩
        · rw [List.flatten_cons, List.length_append]
          omega
        · rw [List.flatten_cons, List.length_append]
          omega

/-- The scan from a position inside a text made of blocks ends where the block there begins. -/
theorem scanBack_flatten {blocks : List (List β)} (hblocks : ∀ b ∈ blocks, IsBlock continues b)
    {n : Nat} (hn : n < blocks.flatten.length) :
    ∃ before block after, blocks = before ++ block :: after ∧ before.flatten.length ≤ n ∧
      n < before.flatten.length + block.length ∧
      scanBack continues blocks.flatten n = before.flatten.length := by
  obtain ⟨before, block, after, rfl, hle, hlt⟩ := exists_block_at hn
  refine ⟨before, block, after, rfl, hle, hlt, ?_⟩
  have hscan := scanBack_block before.flatten after.flatten (hblocks block (by simp))
    (j := n - before.flatten.length) (by omega)
  rwa [Nat.add_sub_cancel' hle, List.append_assoc, ← List.flatten_cons, ← List.flatten_append]
    at hscan

end Framework
