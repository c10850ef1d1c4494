import AogTaskController.Framework.Edges
import Std.Data.ExtTreeMap.Lemmas

/-!
# Announcing what comes and goes

A keyed collection is looked at from time to time. What has changed since the last look is announced:
the entries whose key is new, then the entries whose key is gone, as they were at the last look. The
announcements about one key are the edges of the sequence that tells whether it was there.
-/

namespace Framework

variable {κ α : Type*} [Ord κ] [Std.TransOrd κ]

inductive Announcement (κ α : Type*)
  | appeared (key : κ) (entry : α)
  | disappeared (key : κ) (entry : α)

def announce (previous current : Std.ExtTreeMap κ α compare) : List (Announcement κ α) :=
  (current.toList.filter fun entry => !previous.contains entry.1).map
      (fun entry => .appeared entry.1 entry.2) ++
    (previous.toList.filter fun entry => !current.contains entry.1).map
      fun entry => .disappeared entry.1 entry.2

/-- The announcements of a series of looks. -/
def announcements : Std.ExtTreeMap κ α compare → List (Std.ExtTreeMap κ α compare) → List (Announcement κ α)
  | _, [] => []
  | previous, current :: rest => announce previous current ++ announcements current rest

theorem announcements_concat (previous current : Std.ExtTreeMap κ α compare)
    (looks : List (Std.ExtTreeMap κ α compare)) :
    announcements previous (looks ++ [current]) =
      announcements previous looks ++ announce (lastSent previous looks) current := by
  induction looks generalizing previous with
  | nil => exact List.append_nil _
  | cons look looks ih =>
      have hlast : lastSent previous (look :: looks) = lastSent look looks := by
        simp [lastSent, List.getLast?_cons]
      rw [List.cons_append, announcements, ih, announcements, List.append_assoc, hlast]

variable [Std.LawfulEqOrd κ]

theorem getElem?_of_mem_announce {previous current : Std.ExtTreeMap κ α compare} {key : κ} {a : α} :
    (.appeared key a ∈ announce previous current → current[key]? = some a ∧ previous[key]? = none) ∧
      (.disappeared key a ∈ announce previous current →
        previous[key]? = some a ∧ current[key]? = none) := by
  have hnone (m : Std.ExtTreeMap κ α compare) (k : κ) (h : (!m.contains k) = true) : m[k]? = none := by
    rw [Bool.not_eq_true', Std.ExtTreeMap.contains_eq_isSome_getElem?, Option.isSome_eq_false_iff,
      Option.isNone_iff_eq_none] at h
    exact h
  constructor
  · intro h
    rcases List.mem_append.mp h with h | h
    · obtain ⟨entry, hentry, heq⟩ := List.mem_map.mp h
      obtain ⟨rfl, rfl⟩ := Announcement.appeared.inj heq
      obtain ⟨hmem, hnew⟩ := List.mem_filter.mp hentry
      exact ⟨Std.ExtTreeMap.mem_toList_iff_getElem?_eq_some.mp hmem, hnone previous _ hnew⟩
    · obtain ⟨entry, _, heq⟩ := List.mem_map.mp h
      cases heq
  · intro h
    rcases List.mem_append.mp h with h | h
    · obtain ⟨entry, _, heq⟩ := List.mem_map.mp h
      cases heq
    · obtain ⟨entry, hentry, heq⟩ := List.mem_map.mp h
      obtain ⟨rfl, rfl⟩ := Announcement.disappeared.inj heq
      obtain ⟨hmem, hgone⟩ := List.mem_filter.mp hentry
      exact ⟨Std.ExtTreeMap.mem_toList_iff_getElem?_eq_some.mp hmem, hnone current _ hgone⟩

variable [DecidableEq κ]

def Announcement.about (key : κ) : Announcement κ α → Option Bool
  | .appeared k _ => if k = key then some true else none
  | .disappeared k _ => if k = key then some false else none

theorem filterMap_toList {β : Type*} (m : Std.ExtTreeMap κ α compare) (key : κ) (f : α → β) :
    (m.toList.filterMap fun entry => if entry.1 = key then some (f entry.2) else none) =
      (m[key]?.map f).toList := by
  cases hentry : m[key]? with
  | none =>
      rw [Option.map_none, Option.toList_none, List.filterMap_eq_nil_iff]
      intro entry hmem
      rw [Std.ExtTreeMap.mem_toList_iff_getElem?_eq_some] at hmem
      refine if_neg fun hkey => ?_
      rw [hkey, hentry] at hmem
      cases hmem
  | some a =>
      have hmem := Std.ExtTreeMap.mem_toList_iff_getElem?_eq_some.mpr hentry
      have hkeys := m.distinct_keys_toList
      obtain ⟨before, behind, hlist⟩ := List.append_of_mem hmem
      rw [hlist] at hkeys ⊢
      rw [List.pairwise_append, List.pairwise_cons] at hkeys
      have hskip (entries : List (κ × α)) (hentries : ∀ entry ∈ entries, entry.1 ≠ key) :
          (entries.filterMap fun entry => if entry.1 = key then some (f entry.2) else none) = [] := by
        rw [List.filterMap_eq_nil_iff]
        exact fun entry hentry => if_neg (hentries entry hentry)
      rw [List.filterMap_append, List.filterMap_cons, hskip before, hskip behind]
      · simp
      · intro entry hbehind heq
        apply hkeys.2.1.1 entry hbehind
        rw [heq]
        exact Std.ReflCmp.compare_self
      · intro entry hbefore heq
        apply hkeys.2.2 entry hbefore _ List.mem_cons_self
        rw [heq]
        exact Std.ReflCmp.compare_self

private theorem filterMap_about_part (m other : Std.ExtTreeMap κ α compare) (key : κ) (there : Bool)
    (make : κ → α → Announcement κ α)
    (hmake : ∀ k a, (make k a).about key = if k = key then some there else none) :
    (((m.toList.filter fun entry => !other.contains entry.1).map
      fun entry => make entry.1 entry.2).filterMap (·.about key)) =
      if m.contains key && !other.contains key then [there] else [] := by
  have hentries : (((m.toList.filter fun entry => !other.contains entry.1).map
      fun entry => make entry.1 entry.2).filterMap (·.about key)) =
      (m.toList.filterMap fun entry =>
        if entry.1 = key then some there else none).filter fun _ => !other.contains key := by
    rw [List.filterMap_map, List.filterMap_filter, List.filter_filterMap]
    apply List.filterMap_congr
    intro entry _
    simp only [Function.comp, hmake]
    by_cases hkey : entry.1 = key
    · subst hkey
      rw [if_pos rfl]
      cases other.contains entry.1 <;> rfl
    · simp [hkey]
  have hthere : m.contains key = m[key]?.isSome := Std.ExtTreeMap.contains_eq_isSome_getElem?
  rw [hentries, filterMap_toList m key fun _ => there, hthere]
  cases m[key]? <;> cases other.contains key <;> rfl

theorem filterMap_about_announce (previous current : Std.ExtTreeMap κ α compare) (key : κ) :
    (announce previous current).filterMap (·.about key) =
      edges (previous.contains key) [current.contains key] := by
  rw [announce, List.filterMap_append,
    filterMap_about_part current previous key true .appeared fun _ _ => rfl,
    filterMap_about_part previous current key false .disappeared fun _ _ => rfl]
  cases previous.contains key <;> cases current.contains key <;> rfl

/-- About one key: whether it is there is announced whenever that has changed. -/
theorem filterMap_about_announcements (previous : Std.ExtTreeMap κ α compare)
    (looks : List (Std.ExtTreeMap κ α compare)) (key : κ) :
    (announcements previous looks).filterMap (·.about key) =
      edges (previous.contains key) (looks.map (·.contains key)) := by
  induction looks generalizing previous with
  | nil => rfl
  | cons current looks ih =>
      rw [announcements, List.filterMap_append, ih, filterMap_about_announce, List.map_cons, edges_cons,
        edges_cons, edges_nil]
      by_cases hsame : current.contains key = previous.contains key
      · rw [if_pos hsame, if_pos hsame, hsame]
        rfl
      · rw [if_neg hsame, if_neg hsame]
        rfl

end Framework
