import Mathlib.Data.List.Infix

/-!
# Longest prefixes

The longest prefix of a list with a property: a prefix that has it and behind which no longer one
does.
-/

namespace Framework

variable {α : Type*} {P : List α → Prop} {p p' l rest : List α}

/-- `p` is the longest of the prefixes of `l` with the property `P`. -/
structure IsLongestPrefix (P : List α → Prop) (p l : List α) : Prop where
  isPrefix : p <+: l
  holds : P p
  longest : ∀ q, q <+: l → P q → q <+: p

theorem IsLongestPrefix.unique (h : IsLongestPrefix P p l) (h' : IsLongestPrefix P p' l) :
    p = p' :=
  (h'.longest p h.isPrefix h.holds).eq_of_length_le (h.longest p' h'.isPrefix h'.holds).length_le

theorem isLongestPrefix_append (hp : P p) (hrest : ∀ q, q <+: rest → q ≠ [] → ¬ P (p ++ q)) :
    IsLongestPrefix P p (p ++ rest) where
  isPrefix := List.prefix_append p rest
  holds := hp
  longest q hq hPq := by
    rcases List.prefix_or_prefix_of_prefix hq (List.prefix_append p rest) with hshort | hlong
    · exact hshort
    · obtain ⟨extra, rfl⟩ := hlong
      rw [List.prefix_append_right_inj] at hq
      by_cases hextra : extra = []
      · rw [hextra, List.append_nil]
      · exact absurd hPq (hrest extra hq hextra)

/-- Where the property passes to shorter prefixes, one element more decides. -/
theorem isLongestPrefix_append_of_closed {x : α} (hclosed : ∀ q r, P (q ++ r) → P q) (hp : P p)
    (hx : ¬ P (p ++ [x])) : IsLongestPrefix P p (p ++ x :: rest) := by
  apply isLongestPrefix_append hp
  intro q hq hne hPq
  obtain ⟨y, r, rfl⟩ := List.exists_cons_of_ne_nil hne
  obtain ⟨rfl, _⟩ := List.cons_prefix_cons.mp hq
  apply hx
  apply hclosed (p ++ [y]) r
  rwa [List.append_assoc, List.singleton_append]

theorem isLongestPrefix_self (hp : P p) : IsLongestPrefix P p p where
  isPrefix := List.prefix_rfl
  holds := hp
  longest _ hq _ := hq

end Framework
