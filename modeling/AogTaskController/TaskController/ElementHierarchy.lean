import Mathlib
import AogTaskController.Framework.BoundedWalk
import AogTaskController.Framework.Loop
import AogTaskController.TaskController.ObjectPool

/-!
# Element hierarchy

The parent of each device element, by element number, cached from the pool, and the walk along it.
-/

namespace AogTaskController.TaskController

open Framework

abbrev ParentMap := Std.ExtTreeMap Nat Nat

namespace Pool

def parentElementNumber (pool : Pool) (element : DeviceElementObject) : Option Nat :=
  match pool.getObjectById element.parentObject with
  | some (.deviceElement parent) =>
      if parent.elementNumber = element.elementNumber then none else some parent.elementNumber
  | _ => none

def buildParentMap (pool : Pool) : ParentMap :=
  pool.deviceElements.foldl (fun parents element =>
    match pool.parentElementNumber element with
    | some parent => parents.insert element.elementNumber parent
    | none => parents) ∅

/-- The element numbered `parent` is the parent object of an element numbered `child`. -/
def ParentElement (pool : Pool) (child parent : Nat) : Prop :=
  ∃ element ∈ pool.deviceElements, element.elementNumber = child ∧
    ∃ object, pool.getObjectById element.parentObject = some (.deviceElement object) ∧
      object.elementNumber = parent

def DistinctElementNumbers (pool : Pool) : Prop :=
  (pool.deviceElements.map (·.elementNumber)).Nodup

instance (pool : Pool) : Decidable pool.DistinctElementNumbers :=
  inferInstanceAs (Decidable (List.Nodup _))

end Pool

def anyInChain (parents : ParentMap) (elementNumber : Nat) (predicate : Nat → Bool) : Bool :=
  anyWithin (fun element => parents[element]?) predicate (parents.size + 1) elementNumber

theorem anyInChain_iff (parents : ParentMap) (elementNumber : Nat) (predicate : Nat → Bool) :
    anyInChain parents elementNumber predicate = true ↔
      ∃ ancestor, Relation.ReflTransGen (Follows fun element => parents[element]?)
        elementNumber ancestor ∧ predicate ancestor = true := by
  apply anyWithin_iff_reaches parents.keys.toFinset
  · intro child parent hparent
    rw [List.mem_toFinset, Std.ExtTreeMap.mem_keys, Std.ExtTreeMap.mem_iff_isSome_getElem?]
    exact Option.isSome_iff_exists.mpr ⟨parent, hparent⟩
  · exact (List.toFinset_card_le _).trans_eq Std.ExtTreeMap.length_keys

/-- The variables of `any_in_chain`, with the value returned from within the loop and the elements
that the predicate has been evaluated on. -/
structure ChainSearch where
  elementNumber : Nat
  visited : Nat := 0
  result : Option Bool := none
  evaluated : List Nat := []

namespace ChainSearch

def finish (s : ChainSearch) (result : Bool) : ChainSearch :=
  { s with result := some result, evaluated := s.evaluated ++ [s.elementNumber] }

def climb (s : ChainSearch) (parent : Nat) : ChainSearch :=
  { s with
    elementNumber := parent
    visited := s.visited + 1
    evaluated := s.evaluated ++ [s.elementNumber] }

end ChainSearch

/-- `for (std::size_t visited = 0; visited <= parents.size(); visited++)` -/
def chainLoop (parents : ParentMap) (predicate : Nat → Bool) : WhileLoop ChainSearch where
  guard s := s.result.isNone && s.visited ≤ parents.size
  body s :=
    if predicate s.elementNumber then s.finish true
    else
      match parents[s.elementNumber]? with
      | none => s.finish false
      | some parent => s.climb parent

/-- `any_in_chain` returns `result` and has evaluated the predicate on `evaluated`, in this order. -/
def AnyInChainReturns (parents : ParentMap) (elementNumber : Nat) (predicate : Nat → Bool)
    (result : Bool) (evaluated : List Nat) : Prop :=
  ∃ s, (chainLoop parents predicate).Exits { elementNumber } s ∧
    s.result.getD false = result ∧ s.evaluated = evaluated

private theorem chainLoop_exits_of_body {parents : ParentMap} {predicate : Nat → Bool}
    {s : ChainSearch} {result : Bool} (hguard : (chainLoop parents predicate).guard s = true)
    (hbody : (chainLoop parents predicate).body s = s.finish result) :
    (chainLoop parents predicate).Exits s (s.finish result) := by
  have hstop : (chainLoop parents predicate).Exits (s.finish result) (s.finish result) := .stop rfl
  exact .next hguard (hbody ▸ hstop)

private theorem chainLoop_exits (parents : ParentMap) (predicate : Nat → Bool) (visits : Nat)
    (s : ChainSearch) (hresult : s.result = none) (hvisits : s.visited + visits = parents.size + 1) :
    ∃ t, (chainLoop parents predicate).Exits s t ∧
      t.result.getD false =
        anyWithin (fun element => parents[element]?) predicate visits s.elementNumber ∧
      t.evaluated.length ≤ s.evaluated.length + visits := by
  induction visits generalizing s with
  | zero =>
      have hstop : (chainLoop parents predicate).guard s = false := by
        simp [chainLoop]
        omega
      exact ⟨s, .stop hstop, by rw [hresult]; rfl, Nat.le_refl _⟩
  | succ visits ih =>
      have hguard : (chainLoop parents predicate).guard s = true := by
        simp [chainLoop, hresult]
        omega
      have hone (result : Bool) :
          (s.finish result).evaluated.length ≤ s.evaluated.length + (visits + 1) := by
        simp [ChainSearch.finish]
      cases hp : predicate s.elementNumber with
      | true =>
          have hbody : (chainLoop parents predicate).body s = s.finish true := if_pos hp
          exact ⟨_, chainLoop_exits_of_body hguard hbody, by simp [anyWithin, hp, ChainSearch.finish],
            hone true⟩
      | false =>
          cases hparent : parents[s.elementNumber]? with
          | none =>
              have hbody : (chainLoop parents predicate).body s = s.finish false := by
                simp [chainLoop, hp, hparent]
              exact ⟨_, chainLoop_exits_of_body hguard hbody,
                by simp [anyWithin, hp, hparent, ChainSearch.finish], hone false⟩
          | some parent =>
              have hbody : (chainLoop parents predicate).body s = s.climb parent := by
                simp [chainLoop, hp, hparent]
              obtain ⟨t, hexits, hfound, hlength⟩ := ih (s.climb parent) hresult (by
                simp only [ChainSearch.climb]
                omega)
              refine ⟨t, .next hguard (hbody ▸ hexits), ?_, ?_⟩
              · rw [hfound]
                simp [anyWithin, hp, hparent, ChainSearch.climb]
              · simp only [ChainSearch.climb, List.length_append, List.length_singleton] at hlength
                omega

private theorem anyInChainReturns_anyInChain (parents : ParentMap) (elementNumber : Nat)
    (predicate : Nat → Bool) :
    ∃ evaluated, evaluated.length ≤ parents.size + 1 ∧
      AnyInChainReturns parents elementNumber predicate
        (anyInChain parents elementNumber predicate) evaluated := by
  obtain ⟨t, hexits, hresult, hlength⟩ :=
    chainLoop_exits parents predicate (parents.size + 1) { elementNumber } rfl (by simp)
  exact ⟨t.evaluated, by simpa using hlength, t, hexits, hresult, rfl⟩

theorem AnyInChainReturns.unique {parents : ParentMap} {elementNumber : Nat}
    {predicate : Nat → Bool} {result result' : Bool} {evaluated evaluated' : List Nat}
    (h : AnyInChainReturns parents elementNumber predicate result evaluated)
    (h' : AnyInChainReturns parents elementNumber predicate result' evaluated') :
    result = result' ∧ evaluated = evaluated' := by
  obtain ⟨s, hs, rfl, rfl⟩ := h
  obtain ⟨t, ht, rfl, rfl⟩ := h'
  rw [hs.unique ht]
  exact ⟨rfl, rfl⟩

/-- `any_in_chain` returns, and with `true` exactly when the predicate holds for the element or one
of its ancestors; the bound on its visits cuts off cycles and nothing else. -/
theorem anyInChain_decides_reachability (parents : ParentMap) (elementNumber : Nat)
    (predicate : Nat → Bool) :
    ∃ result evaluated,
      (∀ result' evaluated',
        AnyInChainReturns parents elementNumber predicate result' evaluated' ↔
          result' = result ∧ evaluated' = evaluated) ∧
      (result = true ↔ ∃ ancestor,
        Relation.ReflTransGen (Follows fun element => parents[element]?) elementNumber ancestor ∧
          predicate ancestor = true) ∧
      evaluated.length ≤ parents.size + 1 := by
  obtain ⟨evaluated, hlength, hreturns⟩ :=
    anyInChainReturns_anyInChain parents elementNumber predicate
  refine ⟨_, evaluated, fun result' evaluated' => ?_,
    anyInChain_iff parents elementNumber predicate, hlength⟩
  constructor
  · intro h
    exact h.unique hreturns
  · intro h
    obtain ⟨rfl, rfl⟩ := h
    exact hreturns

namespace Pool

private theorem parentElementNumber_eq_some {pool : Pool} {element : DeviceElementObject}
    {parent : Nat} :
    pool.parentElementNumber element = some parent ↔
      element.elementNumber ≠ parent ∧
        ∃ object, pool.getObjectById element.parentObject = some (.deviceElement object) ∧
          object.elementNumber = parent := by
  rw [parentElementNumber]
  split
  next object hobject =>
    simp only [hobject, Option.ite_none_left_eq_some, Option.some.injEq,
      DdopObject.deviceElement.injEq, exists_eq_left']
    constructor
    · intro h'
      obtain ⟨hne, rfl⟩ := h'
      exact ⟨fun h => hne h.symm, rfl⟩
    · intro h'
      obtain ⟨hne, rfl⟩ := h'
      exact ⟨fun h => hne h.symm, rfl⟩
  next hnone =>
    constructor
    · intro h
      cases h
    · intro h'
      obtain ⟨_, object, hobject, _⟩ := h'
      exact absurd hobject (hnone object)

private theorem getElem?_foldl_insert {β : Type} (key : β → Nat) (value : β → Option Nat)
    (l : List β) (hdistinct : (l.map key).Nodup) (m : ParentMap) (k v : Nat) :
    (l.foldl (fun m b => match value b with
      | some v => m.insert (key b) v
      | none => m) m)[k]? = some v ↔
      (∃ b ∈ l, key b = k ∧ value b = some v) ∨
        (m[k]? = some v ∧ ∀ b ∈ l, key b = k → value b = none) := by
  induction l generalizing m with
  | nil => simp
  | cons b l ih =>
      rw [List.map_cons, List.nodup_cons] at hdistinct
      have hother {b'} (hb' : b' ∈ l) : key b' ≠ key b := fun h =>
        hdistinct.1 (h ▸ List.mem_map_of_mem hb')
      rw [List.foldl_cons, ih hdistinct.2]
      simp only [List.exists_mem_cons_iff, List.forall_mem_cons, or_assoc]
      cases hvalue : value b with
      | none => simp
      | some u =>
          by_cases hk : key b = k
          · subst hk
            have hlater : ∀ b' ∈ l, key b' = key b → value b' = none :=
              fun b' hb' h => absurd h (hother hb')
            have hnone : ¬ ∃ b' ∈ l, key b' = key b ∧ value b' = some v := by
              intro h'
              obtain ⟨b', hb', h, _⟩ := h'
              exact hother hb' h
            simp only [Std.ExtTreeMap.getElem?_insert_self, reduceCtorEq, hnone,
              Option.some.injEq, true_and, false_or, and_iff_left hlater]
            tauto
          · simp [Std.ExtTreeMap.getElem?_insert, hk]

/-- The cached map holds the pool's parents: the walk follows element numbers, so it needs them
to be distinct. -/
private theorem buildParentMap_getElem? {pool : Pool} (hdistinct : pool.DistinctElementNumbers)
    {child parent : Nat} :
    pool.buildParentMap[child]? = some parent ↔ child ≠ parent ∧ pool.ParentElement child parent := by
  rw [buildParentMap, getElem?_foldl_insert _ _ _ hdistinct]
  simp only [Std.ExtTreeMap.getElem?_empty, reduceCtorEq, false_and, or_false,
    parentElementNumber_eq_some, ParentElement]
  constructor
  · intro h
    obtain ⟨element, helement, rfl, hne, hparent⟩ := h
    exact ⟨hne, element, helement, rfl, hparent⟩
  · intro h
    obtain ⟨hne, element, helement, rfl, hparent⟩ := h
    exact ⟨element, helement, rfl, hne, hparent⟩

theorem reaches_buildParentMap_iff {pool : Pool} (hdistinct : pool.DistinctElementNumbers)
    {element ancestor : Nat} :
    Relation.ReflTransGen (Follows fun e => pool.buildParentMap[e]?) element ancestor ↔
      Relation.ReflTransGen pool.ParentElement element ancestor := by
  constructor
  · apply Relation.ReflTransGen.mono
    intro child parent hfollows
    exact ((buildParentMap_getElem? hdistinct).mp hfollows).2
  · intro h
    induction h with
    | refl => exact .refl
    | @tail child parent _ hparent ih =>
        by_cases hne : child = parent
        · exact hne ▸ ih
        · exact ih.tail ((buildParentMap_getElem? hdistinct).mpr ⟨hne, hparent⟩)

end Pool

end AogTaskController.TaskController
