import Std.Data.ExtTreeMap.Lemmas
import Mathlib.Data.List.Induction
import Mathlib.Data.List.Nodup

/-!
# Sending on change, by key

A value is sent under its key unless it is the one that was sent last under that key. The receiver holds
what it was sent last under each key. Then the cache of the sender is what the receiver holds, and the
receiver cannot tell whether everything was sent or only the changes.
-/

namespace Framework

variable {κ β : Type*} [Ord κ] [Std.TransOrd κ]

def receive (held : Std.ExtTreeMap κ β compare) (messages : List (κ × β)) :
    Std.ExtTreeMap κ β compare :=
  messages.foldl (fun held message => held.insert message.1 message.2) held

@[simp] theorem receive_nil (held : Std.ExtTreeMap κ β compare) : receive held [] = held := rfl

@[simp] theorem receive_cons (held : Std.ExtTreeMap κ β compare) (message : κ × β)
    (messages : List (κ × β)) :
    receive held (message :: messages) = receive (held.insert message.1 message.2) messages := rfl

theorem receive_append (held : Std.ExtTreeMap κ β compare) (messages more : List (κ × β)) :
    receive held (messages ++ more) = receive (receive held messages) more :=
  List.foldl_append

section LawfulKeys

variable [Std.LawfulEqOrd κ]

theorem insert_of_getElem? {held : Std.ExtTreeMap κ β compare} {key : κ} {value : β}
    (h : held[key]? = some value) : held.insert key value = held := by
  apply Std.ExtTreeMap.ext_getElem?
  intro other
  rw [Std.ExtTreeMap.getElem?_insert]
  split
  next heq => rw [← Std.LawfulEqCmp.compare_eq_iff_eq.mp heq, h]
  next => rfl

theorem getElem?_receive {held : Std.ExtTreeMap κ β compare} {messages : List (κ × β)}
    (hkeys : (messages.map (·.1)).Nodup) {message : κ × β} (hmem : message ∈ messages) :
    (receive held messages)[message.1]? = some message.2 := by
  induction messages using List.reverseRecOn with
  | nil => cases hmem
  | append_singleton messages last ih =>
      rw [List.map_append, List.nodup_append] at hkeys
      rw [receive_append, receive_cons, receive_nil, Std.ExtTreeMap.getElem?_insert]
      rcases List.mem_append.mp hmem with hmem | hmem
      · have hne : last.1 ≠ message.1 := fun heq =>
          hkeys.2.2 _ (List.mem_map_of_mem hmem) _ (List.mem_singleton_self _) heq.symm
        rw [if_neg fun heq => hne (Std.LawfulEqCmp.compare_eq_iff_eq.mp heq)]
        exact ih hkeys.1 hmem
      · rw [List.mem_singleton.mp hmem, if_pos Std.ReflCmp.compare_self]

end LawfulKeys

variable [DecidableEq β]

/-- The cache behind the entry, and what is sent. -/
def sendIfChanged (cache : Std.ExtTreeMap κ β compare) (entry : κ × β) :
    Std.ExtTreeMap κ β compare × List (κ × β) :=
  if cache[entry.1]? = some entry.2 then (cache, []) else (cache.insert entry.1 entry.2, [entry])

def sendAllIfChanged : Std.ExtTreeMap κ β compare → List (κ × β) →
    Std.ExtTreeMap κ β compare × List (κ × β)
  | cache, [] => (cache, [])
  | cache, entry :: entries =>
      let x := sendIfChanged cache entry
      let y := sendAllIfChanged x.1 entries
      (y.1, x.2 ++ y.2)

theorem sendAllIfChanged_news {cache : Std.ExtTreeMap κ β compare} {entries before after : List (κ × β)}
    {message : κ × β} (h : (sendAllIfChanged cache entries).2 = before ++ message :: after) :
    (receive cache before)[message.1]? ≠ some message.2 ∧ message ∈ entries := by
  induction entries generalizing cache before with
  | nil =>
      have hlength := congrArg List.length h
      rw [List.length_append, List.length_cons] at hlength
      cases hlength
  | cons entry entries ih =>
      rw [sendAllIfChanged, sendIfChanged] at h
      split at h
      next =>
        obtain ⟨hnews, hmem⟩ := ih h
        exact ⟨hnews, List.mem_cons_of_mem _ hmem⟩
      next hnew =>
        cases before with
        | nil =>
            obtain ⟨rfl, _⟩ := List.cons.inj h
            exact ⟨hnew, List.mem_cons_self⟩
        | cons first before =>
            obtain ⟨rfl, hrest⟩ := List.cons.inj h
            obtain ⟨hnews, hmem⟩ := ih hrest
            exact ⟨hnews, List.mem_cons_of_mem _ hmem⟩

variable [Std.LawfulEqOrd κ]

theorem sendIfChanged_fst (cache : Std.ExtTreeMap κ β compare) (entry : κ × β) :
    (sendIfChanged cache entry).1 = cache.insert entry.1 entry.2 ∧
      receive cache (sendIfChanged cache entry).2 = cache.insert entry.1 entry.2 := by
  rw [sendIfChanged]
  split
  next hheld => exact ⟨(insert_of_getElem? hheld).symm, (insert_of_getElem? hheld).symm⟩
  next => exact ⟨rfl, rfl⟩

/-- The cache is what the receiver holds, and it holds what it would if everything had been sent. -/
theorem sendAllIfChanged_eq (cache : Std.ExtTreeMap κ β compare) (entries : List (κ × β)) :
    (sendAllIfChanged cache entries).1 = receive cache entries ∧
      receive cache (sendAllIfChanged cache entries).2 = receive cache entries := by
  induction entries generalizing cache with
  | nil => exact ⟨rfl, rfl⟩
  | cons entry entries ih =>
      obtain ⟨hcache, hreceived⟩ := sendIfChanged_fst cache entry
      obtain ⟨hrest, hrestReceived⟩ := ih (cache.insert entry.1 entry.2)
      rw [sendAllIfChanged, hcache, receive_append, hreceived]
      exact ⟨hrest, hrestReceived⟩

end Framework
