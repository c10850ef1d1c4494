import Mathlib.Data.List.Basic

/-!
# Lossy queues

Producers append items to a queue and drop its oldest ones when it grows too large; a consumer takes
all that is queued at once. A ledger records what became of every item: the batches that were taken,
each with the items dropped before it, then the items dropped since, then those still queued.
-/

namespace Framework

/-- What the consumer took at once, and what was dropped since the batch before. -/
structure Batch (α : Type*) where
  dropped : List α
  taken : List α
  taken_ne_nil : taken ≠ []

/-- The queue is never dropped as a whole. -/
structure Ledger (α : Type*) where
  batches : List (Batch α) := []
  dropped : List α := []
  queued : List α := []
  dropped_eq_nil : queued = [] → dropped = []

variable {α β : Type*}

namespace Batch

def items (batch : Batch α) : List α := batch.dropped ++ batch.taken

/-- What is put out for a batch, with one notice in the place of the items dropped before it. -/
def output (notice : List α → β) (item : α → β) (batch : Batch α) : List β :=
  (if batch.dropped.isEmpty then [] else [notice batch.dropped]) ++ batch.taken.map item

end Batch

namespace Ledger

def empty : Ledger α where
  dropped_eq_nil _ := rfl

def items (ledger : Ledger α) : List α :=
  ledger.batches.flatMap Batch.items ++ ledger.dropped ++ ledger.queued

/-- What is put out for the batches. -/
def output (notice : List α → β) (item : α → β) (ledger : Ledger α) : List β :=
  ledger.batches.flatMap (Batch.output notice item)

def push (ledger : Ledger α) (item : α) : Ledger α where
  batches := ledger.batches
  dropped := ledger.dropped
  queued := ledger.queued ++ [item]
  dropped_eq_nil h := absurd h (List.append_ne_nil_of_right_ne_nil _ (List.cons_ne_nil item []))

/-- Drop the oldest item of a queue that has more than one. -/
def dropOldest (ledger : Ledger α) {oldest : α} {rest : List α} (_ : ledger.queued = oldest :: rest)
    (hrest : rest ≠ []) : Ledger α where
  batches := ledger.batches
  dropped := ledger.dropped ++ [oldest]
  queued := rest
  dropped_eq_nil h := absurd h hrest

def take (ledger : Ledger α) (h : ledger.queued ≠ []) : Ledger α where
  batches := ledger.batches ++ [⟨ledger.dropped, ledger.queued, h⟩]
  dropped_eq_nil _ := rfl

variable (ledger : Ledger α)

theorem items_push (item : α) : (ledger.push item).items = ledger.items ++ [item] := by
  simp only [items, push, List.append_assoc]

theorem items_dropOldest {oldest : α} {rest : List α} (h : ledger.queued = oldest :: rest)
    (hrest : rest ≠ []) : (ledger.dropOldest h hrest).items = ledger.items := by
  simp only [items, dropOldest, h, List.append_assoc, List.singleton_append]

theorem items_take (h : ledger.queued ≠ []) : (ledger.take h).items = ledger.items := by
  simp only [items, take, Batch.items, List.flatMap_append, List.flatMap_singleton, List.append_nil,
    List.append_assoc]

theorem output_take (notice : List α → β) (item : α → β) (h : ledger.queued ≠ []) :
    (ledger.take h).output notice item =
      ledger.output notice item ++ Batch.output notice item ⟨ledger.dropped, ledger.queued, h⟩ := by
  simp only [output, take, List.flatMap_append, List.flatMap_singleton]

theorem items_of_queued_eq_nil (h : ledger.queued = []) :
    ledger.items = ledger.batches.flatMap Batch.items := by
  rw [items, h, ledger.dropped_eq_nil h, List.append_nil, List.append_nil]

end Ledger

end Framework
