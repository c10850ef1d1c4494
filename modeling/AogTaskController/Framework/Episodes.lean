import Mathlib.Data.List.DropRight
import Mathlib.Data.List.Induction

/-!
# Episodes

A condition is looked at from time to time. An episode is an uninterrupted stretch of looks at which
it held. An alarm rings once in each episode, at the first look at which the episode has lasted for
some time.
-/

namespace Framework

structure Sample where
  time : Nat
  holds : Bool
  deriving DecidableEq

/-- The start of the episode that the history ends with. -/
def episodeStart (samples : List Sample) : Option Nat :=
  (samples.rtakeWhile (·.holds)).head?.map (·.time)

/-- The history ends in an episode that has lasted for the duration. -/
def Due (duration : Nat) (samples : List Sample) : Prop :=
  ∃ start last, episodeStart samples = some start ∧ samples.getLast? = some last ∧
    start + duration ≤ last.time

/-- The alarm rings at the last sample. -/
def Rings (duration : Nat) (samples : List Sample) : Prop :=
  Due duration samples ∧ ¬ Due duration samples.dropLast

variable {duration : Nat} {samples : List Sample} {sample : Sample}

theorem episodeStart_snoc :
    episodeStart (samples ++ [sample]) =
      if sample.holds then some ((episodeStart samples).getD sample.time) else none := by
  rw [episodeStart, List.rtakeWhile_concat, episodeStart]
  cases hholds : sample.holds with
  | false => rfl
  | true => cases samples.rtakeWhile (·.holds) <;> rfl

theorem episodeStart_of_last
    (h : ∀ last, samples.getLast? = some last → last.holds = false) :
    episodeStart samples = none := by
  induction samples using List.reverseRecOn with
  | nil => rfl
  | append_singleton samples last _ =>
      rw [episodeStart_snoc, h last List.getLast?_concat, if_neg Bool.false_ne_true]

theorem mem_of_episodeStart {start : Nat} (h : episodeStart samples = some start) :
    ∃ s ∈ samples, s.time = start := by
  rw [episodeStart, Option.map_eq_some_iff] at h
  obtain ⟨first, hfirst, rfl⟩ := h
  exact ⟨first, (List.rtakeWhile_suffix _ samples).subset (List.mem_of_head? hfirst), rfl⟩

theorem lt_of_not_due {start : Nat} (hstart : episodeStart samples = some start)
    (hnot : ¬ Due duration samples) :
    ∃ last, samples.getLast? = some last ∧ last.time < start + duration := by
  cases hlast : samples.getLast? with
  | none =>
      rw [List.getLast?_eq_none_iff.mp hlast] at hstart
      cases hstart
  | some last =>
      refine ⟨last, rfl, ?_⟩
      by_contra hlasted
      exact hnot ⟨start, last, hstart, hlast, Nat.le_of_not_lt hlasted⟩

theorem due_snoc :
    Due duration (samples ++ [sample]) ↔
      sample.holds = true ∧ (episodeStart samples).getD sample.time + duration ≤ sample.time := by
  simp only [Due, episodeStart_snoc, List.getLast?_concat, Option.some.injEq]
  cases sample.holds with
  | false => simp
  | true => simp

theorem not_due_of_interrupted (h : episodeStart samples = none) : ¬ Due duration samples := by
  intro hdue
  obtain ⟨start, _, hstart, _⟩ := hdue
  rw [h] at hstart
  cases hstart

theorem rings_snoc :
    Rings duration (samples ++ [sample]) ↔
      Due duration (samples ++ [sample]) ∧ ¬ Due duration samples := by
  rw [Rings, List.dropLast_concat]

theorem Due.snoc (h : Due duration samples) (hholds : sample.holds = true)
    (htime : ∀ last, samples.getLast? = some last → last.time ≤ sample.time) :
    Due duration (samples ++ [sample]) := by
  obtain ⟨start, last, hstart, hlast, hlasted⟩ := h
  rw [due_snoc, hstart, Option.getD_some]
  exact ⟨hholds, hlasted.trans (htime last hlast)⟩

theorem Due.append (h : Due duration samples) {later : List Sample}
    (hholds : ∀ s ∈ later, s.holds = true)
    (htime : (samples ++ later).Pairwise fun s t => s.time ≤ t.time) :
    Due duration (samples ++ later) := by
  induction later using List.reverseRecOn with
  | nil => rwa [List.append_nil]
  | append_singleton later sample ih =>
      rw [← List.append_assoc] at htime ⊢
      have hbefore := List.pairwise_append.mp htime
      apply (ih (fun s hs => hholds s (List.mem_append_left _ hs)) hbefore.1).snoc
      · exact hholds sample (List.mem_append_right _ (List.mem_singleton_self sample))
      · intro last hlast
        exact hbefore.2.2 last (List.mem_of_getLast? hlast) sample (List.mem_singleton_self sample)

theorem Rings.held (h : Rings duration samples)
    (htime : samples.Pairwise fun s t => s.time ≤ t.time) {last : Sample}
    (hlast : samples.getLast? = some last) :
    ∀ s ∈ samples, last.time < s.time + duration → s.holds = true := by
  obtain ⟨start, last', hstart, hlast', hlasted⟩ := h.1
  obtain rfl : last' = last := Option.some.inj (hlast'.symm.trans hlast)
  intro s hs hrecent
  have hsplit := @List.rdropWhile_append_rtakeWhile _ (fun s : Sample => s.holds) samples
  rw [← hsplit] at hs htime
  rcases List.mem_append.mp hs with hs | hs
  · -- what lies before the episode lies before its start
    rw [episodeStart, Option.map_eq_some_iff] at hstart
    obtain ⟨first, hfirst, rfl⟩ := hstart
    have hbefore := (List.pairwise_append.mp htime).2.2 s hs first (List.mem_of_head? hfirst)
    omega
  · exact List.mem_rtakeWhile_imp hs

theorem Rings.not_again (h : Rings duration samples) {later : List Sample} (hlater : later ≠ [])
    (hholds : ∀ s ∈ later, s.holds = true)
    (htime : (samples ++ later).Pairwise fun s t => s.time ≤ t.time) :
    ¬ Rings duration (samples ++ later) := by
  intro hagain
  rw [Rings, List.dropLast_append_of_ne_nil hlater] at hagain
  apply hagain.2
  have hsub : (samples ++ later.dropLast).Sublist (samples ++ later) :=
    (List.Sublist.refl samples).append (List.dropLast_sublist later)
  exact h.1.append (fun s hs => hholds s ((List.dropLast_subset later) hs)) (htime.sublist hsub)

theorem episodeStart_append (hnew : episodeStart samples = none) {episode : List Sample}
    (hholds : ∀ s ∈ episode, s.holds = true) :
    episodeStart (samples ++ episode) = episode.head?.map (·.time) := by
  induction episode using List.reverseRecOn with
  | nil => rwa [List.append_nil]
  | append_singleton episode sample ih =>
      have hsample := hholds sample (List.mem_append_right _ (List.mem_singleton_self sample))
      rw [← List.append_assoc, episodeStart_snoc, hsample, if_pos rfl,
        ih fun s hs => hholds s (List.mem_append_left _ hs)]
      cases episode <;> rfl

/-- In every new episode that lasts for the duration it rings. -/
theorem exists_rings (hnew : episodeStart samples = none) {episode : List Sample}
    (hholds : ∀ s ∈ episode, s.holds = true) (hdue : Due duration (samples ++ episode)) :
    ∃ begun sample, begun ++ [sample] <+: episode ∧ Rings duration (samples ++ (begun ++ [sample])) := by
  induction episode using List.reverseRecOn with
  | nil =>
      rw [List.append_nil] at hdue
      exact absurd hdue (not_due_of_interrupted hnew)
  | append_singleton episode sample ih =>
      by_cases hbefore : Due duration (samples ++ episode)
      · obtain ⟨begun, s, hprefix, hrings⟩ :=
          ih (fun s hs => hholds s (List.mem_append_left _ hs)) hbefore
        exact ⟨begun, s, hprefix.trans (List.prefix_append episode [sample]), hrings⟩
      · refine ⟨episode, sample, List.prefix_rfl, ?_⟩
        rw [← List.append_assoc] at hdue ⊢
        exact rings_snoc.mpr ⟨hdue, hbefore⟩

end Framework
