import Mathlib.Data.List.DropRight
import Mathlib.Data.List.Induction

/-!
# Histories since a reset

What a history has collected since the last event that resets it, and what it takes for a reset
that is missed to go unnoticed.
-/

namespace Framework

variable {ε α : Type*}

/-- The events behind the last one that resets. -/
def since (resets : ε → Bool) (es : List ε) : List ε := es.rtakeWhile fun e => !resets e

def collected (resets : ε → Bool) (collect : ε → Option α) (es : List ε) : List α :=
  (since resets es).filterMap collect

variable {resets misses : ε → Bool} {collect : ε → Option α}

@[simp] theorem collected_nil : collected resets collect [] = [] := by
  simp [collected, since]

theorem collected_snoc (es : List ε) (e : ε) :
    collected resets collect (es ++ [e]) =
      if resets e then [] else collected resets collect es ++ (collect e).toList := by
  rw [collected, since, List.rtakeWhile_concat]
  cases hresets : resets e with
  | true => simp
  | false => cases hcollect : collect e <;> simp [collected, since, hcollect]

theorem collected_append (es : List ε) {fs : List ε} (hfs : ∀ f ∈ fs, resets f = false) :
    collected resets collect (es ++ fs) = collected resets collect es ++ fs.filterMap collect := by
  induction fs using List.reverseRecOn with
  | nil => simp
  | append_singleton fs f ih =>
      have hf := hfs f (List.mem_append_right fs (List.mem_singleton_self f))
      rw [← List.append_assoc, collected_snoc, hf, ih fun g hg => hfs g (List.mem_append_left _ hg)]
      cases hcollect : collect f <;> simp [hcollect]

private theorem snoc_eq_append_cons {es pre mid : List ε} {f e : ε} :
    es ++ [f] = pre ++ e :: mid ↔
      es = pre ∧ f = e ∧ mid = [] ∨ ∃ mid', mid = mid' ++ [f] ∧ es = pre ++ e :: mid' := by
  constructor
  · intro heq
    rcases List.eq_nil_or_concat mid with rfl | ⟨mid', g, rfl⟩
    · obtain ⟨hes, hlast⟩ := List.append_inj' heq rfl
      exact .inl ⟨hes, List.singleton_inj.mp hlast, rfl⟩
    · rw [List.concat_eq_append, ← List.cons_append, ← List.append_assoc] at heq
      obtain ⟨hes, hlast⟩ := List.append_inj' heq rfl
      obtain rfl := List.singleton_inj.mp hlast
      exact .inr ⟨mid', List.concat_eq_append, hes⟩
  · intro h
    rcases h with ⟨rfl, rfl, rfl⟩ | ⟨mid', rfl, rfl⟩
    · rfl
    · simp

/-- Where some events should reset and do not, the collection is still the right one if and only if
it was empty at every such event, or was reset since. -/
theorem collected_missing_iff (hmisses : ∀ e, misses e = true → collect e = none) (es : List ε) :
    collected resets collect es = collected (fun e => resets e || misses e) collect es ↔
      ∀ pre e mid, es = pre ++ e :: mid → misses e = true →
        (∀ f ∈ e :: mid, resets f = false) → collected resets collect pre = [] := by
  induction es using List.reverseRecOn with
  | nil => simp
  | append_singleton es f ih =>
      simp only [collected_snoc, snoc_eq_append_cons]
      cases hresets : resets f with
      | true =>
          refine iff_of_true (by simp) ?_
          intro pre e mid heq _ hkept
          have hlast : f ∈ e :: mid := by
            rcases heq with ⟨_, rfl, _⟩ | ⟨mid', rfl, _⟩
            · exact List.mem_cons_self ..
            · simp
          rw [hkept f hlast] at hresets
          cases hresets
      | false =>
          cases hmiss : misses f with
          | true =>
              rw [hmisses f hmiss]
              simp only [Bool.false_eq_true, if_false, Bool.or_true, if_true, Option.toList_none,
                List.append_nil]
              constructor
              · intro h pre e mid heq _ hkept
                rcases heq with ⟨rfl, _⟩ | ⟨mid', rfl, rfl⟩
                · exact h
                · rw [← List.cons_append] at hkept
                  rw [collected_append pre fun x hx => hkept x (List.mem_append_left _ hx)] at h
                  exact (List.append_eq_nil_iff.mp h).1
              · intro h
                exact h es f [] (.inl ⟨rfl, rfl, rfl⟩) hmiss (by simpa using hresets)
          | false =>
              simp only [Bool.false_eq_true, if_false, Bool.or_false, List.append_left_inj]
              rw [ih]
              constructor
              · intro h pre e mid heq he hkept
                rcases heq with ⟨_, rfl, _⟩ | ⟨mid', rfl, hes⟩
                · rw [hmiss] at he
                  cases he
                · rw [← List.cons_append] at hkept
                  exact h pre e mid' hes he fun x hx => hkept x (List.mem_append_left _ hx)
              · intro h pre e mid hes he hkept
                apply h pre e (mid ++ [f]) (.inr ⟨mid, rfl, hes⟩) he
                rw [← List.cons_append]
                intro x hx
                rcases List.mem_append.mp hx with hx | hx
                · exact hkept x hx
                · exact List.mem_singleton.mp hx ▸ hresets

end Framework
