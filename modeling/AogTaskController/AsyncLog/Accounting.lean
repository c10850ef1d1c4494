import AogTaskController.AsyncLog.Queue

/-!
# Accounting for every line

The queue and the writer carry out a ledger of the submitted lines, under every schedule: what is
written follows from its batches, and the two counters of the queue from the rest of it.
-/

namespace AogTaskController.AsyncLog

open Framework

def gapNotice (gap : List Text) : Text := dropNotice (totalBytes gap)

def ledgerText (ledger : Ledger Text) : List Text := ledger.output gapNotice id

section Bytes

variable (lines : List Text) (line : Text)

@[simp] theorem totalBytes_nil : totalBytes [] = 0 := rfl

@[simp] theorem totalBytes_cons : totalBytes (line :: lines) = line.length + totalBytes lines :=
  List.length_append

@[simp] theorem totalBytes_append (more : List Text) :
    totalBytes (lines ++ more) = totalBytes lines + totalBytes more := by
  simp [totalBytes]

private theorem totalBytes_eq_zero (h : ∀ line ∈ lines, line ≠ []) : totalBytes lines = 0 ↔ lines =
    [] := by
  cases lines with
  | nil => simp
  | cons line lines =>
      have hline : line.length ≠ 0 := by
        rw [ne_eq, List.length_eq_zero_iff]
        exact h line (List.mem_cons_self ..)
      simp only [totalBytes_cons, List.cons_ne_nil, iff_false]
      omega

end Bytes

private theorem submitted_append (trace more : List Observed) :
    submitted (trace ++ more) = submitted trace ++ submitted more :=
  List.filterMap_append

private theorem written_append (trace more : List Observed) :
    written (trace ++ more) = written trace ++ written more :=
  List.filterMap_append

structure Counts (ledger : Ledger Text) (lines : List Text) (bytes droppedBytes : Nat) : Prop where
  lines : lines = ledger.queued
  bytes : bytes = totalBytes ledger.queued
  droppedBytes : droppedBytes = totalBytes ledger.dropped

theorem Counts.dropOldestLines {ledger : Ledger Text} {lines : List Text} {bytes droppedBytes : Nat}
    (h : Counts ledger lines bytes droppedBytes) (hlines : lines ≠ []) :
    ∃ ledger' : Ledger Text, ledger'.batches = ledger.batches ∧ ledger'.items = ledger.items ∧
      Counts ledger' (dropOldestLines lines bytes droppedBytes).1
        (dropOldestLines lines bytes droppedBytes).2.1
        (dropOldestLines lines bytes droppedBytes).2.2 ∧
      ((dropOldestLines lines bytes droppedBytes).2.1 ≤ maxQueuedBytes ∨
        (dropOldestLines lines bytes droppedBytes).1.length = 1) := by
  fun_induction AsyncLog.dropOldestLines lines bytes droppedBytes generalizing ledger with
  | case1 front next rest bytes droppedBytes _ ih =>
      have hrest : next :: rest ≠ [] := List.cons_ne_nil next rest
      have hdropped : Counts (ledger.dropOldest h.lines.symm hrest) (next :: rest)
          (bytes - front.length) (droppedBytes + front.length) := by
        refine ⟨rfl, ?_, ?_⟩
        · show bytes - front.length = totalBytes (next :: rest)
          have hbytes := h.bytes
          rw [← h.lines, totalBytes_cons] at hbytes
          omega
        · show droppedBytes + front.length = totalBytes (ledger.dropped ++ [front])
          rw [totalBytes_append, totalBytes_cons, totalBytes_nil, Nat.add_zero, ← h.droppedBytes]
      obtain ⟨ledger', hbatches, hitems, hcounts⟩ := ih hdropped hrest
      rw [ledger.items_dropOldest] at hitems
      exact ⟨ledger', hbatches, hitems, hcounts⟩
  | case2 front next rest bytes droppedBytes hfits =>
      exact ⟨ledger, rfl, rfl, h, .inl (Nat.le_of_not_lt hfits)⟩
  | case3 lines bytes droppedBytes hshort =>
      refine ⟨ledger, rfl, rfl, h, .inr ?_⟩
      cases lines with
      | nil => exact absurd rfl hlines
      | cons front rest =>
          cases rest with
          | nil => rfl
          | cons next rest => exact absurd rfl (hshort front next rest)

def Writer.left : Writer → List Text
  | .waiting => []
  | .writing left => left

def Writer.isWriting : Writer → Bool
  | .waiting => false
  | .writing _ => true

private theorem left_of_idle {writer : Writer} (h : writer.isWriting = false) : writer.left =
    [] := by
  cases writer with
  | waiting => rfl
  | writing left => cases h

/-- The ledger accounts for what was observed, and the state follows from it. -/
structure Accounts (ledger : Ledger Text) (trace : List Observed) (queue : Queue) (writer : Writer) :
    Prop where
  submitted : submitted trace = ledger.items
  written : written trace ++ writer.left = ledgerText ledger
  lines_ne_nil : ∀ line ∈ ledger.items, line ≠ []
  counts : Counts ledger queue.lines queue.bytes queue.droppedBytes
  bounded : queue.bytes ≤ maxQueuedBytes ∨ queue.lines.length = 1
  writing : queue.writing = writer.isWriting

namespace Accounts

variable {ledger : Ledger Text} {trace : List Observed} {queue : Queue} {writer : Writer}

theorem init : Accounts Ledger.empty [] {} .waiting :=
  ⟨rfl, rfl, by simp [Ledger.empty, Ledger.items], ⟨rfl, rfl, rfl⟩, .inl (Nat.zero_le _), rfl⟩

theorem observe (h : Accounts ledger trace queue writer) {more : List Observed}
    (hsubmitted : AsyncLog.submitted more = []) (hwritten : AsyncLog.written more = []) :
    Accounts ledger (trace ++ more) queue writer :=
  { h with
    submitted := by rw [submitted_append, hsubmitted, List.append_nil, h.submitted]
    written := by rw [written_append, hwritten, List.append_nil, h.written] }

theorem submit (h : Accounts ledger trace queue writer) {line : Text} (hline : line ≠ []) :
    ∃ ledger', Accounts ledger' (trace ++ [.submitted line]) (queue.submit line) writer := by
  have hpushed : Counts (ledger.push line) (queue.lines ++ [line]) (queue.bytes + line.length)
      queue.droppedBytes := by
    refine ⟨?_, ?_, h.counts.droppedBytes⟩
    · rw [h.counts.lines]
      rfl
    · rw [h.counts.bytes, Ledger.push, totalBytes_append, totalBytes_cons, totalBytes_nil,
        Nat.add_zero]
  obtain ⟨ledger', hbatches, hitems, hcounts, hbounded⟩ :=
    hpushed.dropOldestLines (List.append_ne_nil_of_right_ne_nil _ (List.cons_ne_nil line []))
  rw [ledger.items_push] at hitems
  refine ⟨ledger', ?_, ?_, ?_, hcounts, hbounded, h.writing⟩
  · rw [submitted_append, h.submitted, hitems]
    rfl
  · have hnone : AsyncLog.written [Observed.submitted line] = [] := rfl
    rw [written_append, hnone, List.append_nil, h.written, ledgerText, ledgerText, Ledger.output,
      Ledger.output, hbatches]
    rfl
  · intro line' hline'
    rw [hitems] at hline'
    rcases List.mem_append.mp hline' with hbefore | hlast
    · exact h.lines_ne_nil line' hbefore
    · rwa [List.mem_singleton.mp hlast]

private theorem notice_iff (h : Accounts ledger trace queue writer) :
    queue.droppedBytes = 0 ↔ ledger.dropped = [] := by
  rw [h.counts.droppedBytes]
  apply totalBytes_eq_zero
  intro line hline
  apply h.lines_ne_nil line
  rw [Ledger.items]
  exact List.mem_append_left _ (List.mem_append_right _ hline)

/-- The writer takes a batch as the ledger does, notice included. -/
private theorem output_batch (h : Accounts ledger trace queue writer)
    (hqueued : ledger.queued ≠ []) :
    Batch.output gapNotice id ⟨ledger.dropped, ledger.queued, hqueued⟩ =
      (if queue.droppedBytes ≠ 0 then [dropNotice queue.droppedBytes] else []) ++ queue.lines := by
  rw [Batch.output, List.map_id, h.counts.lines]
  by_cases hnone : ledger.dropped = []
  · simp [hnone, h.notice_iff.mpr hnone]
  · have hsome : queue.droppedBytes ≠ 0 := fun hzero => hnone (h.notice_iff.mp hzero)
    rw [if_neg (by simpa using hnone), if_pos hsome, gapNotice, h.counts.droppedBytes]

theorem waitForLines {s : Log} (h : Accounts ledger trace s.queue .waiting) :
    ∃ ledger', Accounts ledger' trace s.waitForLines.queue s.waitForLines.writer := by
  rw [Log.waitForLines]
  split
  case isTrue => exact ⟨ledger, h⟩
  case isFalse hlines =>
      have hqueued : ledger.queued ≠ [] := by
        rw [← h.counts.lines]
        simpa using hlines
      refine ⟨ledger.take hqueued, ?_, ?_, ?_, ⟨rfl, rfl, rfl⟩, .inl (Nat.zero_le _), rfl⟩
      · rw [ledger.items_take, h.submitted]
      · have hbefore := h.written
        rw [Writer.left, List.append_nil] at hbefore
        rw [hbefore, ledgerText, ledgerText, ledger.output_take, h.output_batch hqueued]
        rfl
      · rw [ledger.items_take]
        exact h.lines_ne_nil

end Accounts

private theorem take_ne_nil_of_rfind {text : Text} {stop : Nat}
    (h : rfind newline text = some stop) :
    text.take (stop + 1) ≠ [] := by
  cases text with
  | nil => cases h
  | cons c text =>
      rw [List.take_succ_cons]
      exact List.cons_ne_nil _ _

section Steps

variable {ledger : Ledger Text} {trace : List Observed} {s : Log}

/-- After a step the account of a ledger goes on, perhaps that of another one. -/
def Continues (trace : List Observed) (x : Log × List Observed) : Prop :=
  ∃ ledger, Accounts ledger (trace ++ x.2) x.1.queue x.1.writer

private theorem append_continues (h : Accounts ledger trace s.queue s.writer) (thread : Nat)
    (text : Text) :
    Continues trace (s.append thread text) := by
  rw [Log.append]
  cases hstop : rfind newline (s.buffers thread ++ text) with
  | none => exact ⟨ledger, h.observe rfl rfl⟩
  | some stop => exact h.submit (take_ne_nil_of_rfind hstop)

private theorem exit_continues (h : Accounts ledger trace s.queue s.writer) (thread : Nat) :
    Continues trace (s.exit thread) := by
  rw [Log.exit]
  cases hline : s.buffers thread with
  | nil => exact ⟨ledger, h.observe rfl rfl⟩
  | cons c line => exact h.submit (List.cons_ne_nil c line)

private theorem writeLines_continues (h : Accounts ledger trace s.queue s.writer) :
    Continues trace s.writeLines := by
  rw [Log.writeLines]
  cases hwriter : s.writer with
  | waiting =>
      rw [hwriter] at h
      rw [Continues, List.append_nil]
      exact h.waitForLines
  | writing left =>
      rw [hwriter] at h
      cases left with
      | nil =>
          have hidle : Accounts ledger trace { s.queue with writing := false } .waiting :=
            ⟨h.submitted, h.written, h.lines_ne_nil, h.counts, h.bounded, rfl⟩
          rw [Continues, List.append_nil]
          exact @Accounts.waitForLines _ _ { s with queue := { s.queue with writing := false } } hidle
      | cons text left =>
          refine ⟨ledger, ?_, ?_, h.lines_ne_nil, h.counts, h.bounded, h.writing⟩
          · rw [submitted_append, h.submitted]
            exact List.append_nil _
          · rw [written_append, ← h.written, List.append_assoc]
            rfl

private theorem waitDrained_continues (h : Accounts ledger trace s.queue s.writer) (thread : Nat)
    (expired : Bool) : Continues trace (s.waitDrained thread expired) := by
  rw [Log.waitDrained]
  split
  · exact ⟨ledger, h.observe rfl rfl⟩
  · split
    · exact ⟨ledger, h.observe rfl rfl⟩
    · exact ⟨ledger, h.observe rfl rfl⟩

/-- Every step keeps account of every line. -/
private theorem step_continues (h : Accounts ledger trace s.queue s.writer) (e : Event) :
    Continues trace (s.step e) := by
  have hsame : Continues trace (s, []) := ⟨ledger, h.observe rfl rfl⟩
  cases e with
  | append thread text => exact append_continues h thread text
  | exit thread => exact exit_continues h thread
  | writer => exact writeLines_continues h
  | callFlush thread =>
      rw [Log.step]
      cases s.flushCalls thread with
      | none => exact ⟨ledger, h.observe rfl rfl⟩
      | locking | waiting => exact hsame
  | tryLock thread acquired expired =>
      rw [Log.step]
      cases s.flushCalls thread with
      | none | waiting => exact hsame
      | locking =>
          cases acquired with
          | true => exact waitDrained_continues h thread expired
          | false =>
              cases expired with
              | true => exact ⟨ledger, h.observe rfl rfl⟩
              | false => exact hsame
  | wake thread expired =>
      rw [Log.step]
      cases s.flushCalls thread with
      | none | locking => exact hsame
      | waiting => exact waitDrained_continues h thread expired

private theorem drained_of_waitDrained {caller thread : Nat} {expired : Bool}
    (h : .flushed thread true ∈ (s.waitDrained caller expired).2) : s.queue.drained = true := by
  rw [Log.waitDrained] at h
  split at h
  case isTrue hdrained => exact hdrained
  case isFalse =>
      split at h
      · simp [Log.returnFrom] at h
      · cases h

private theorem drained_of_flushed {e : Event} {thread : Nat}
    (h : .flushed thread true ∈ (s.step e).2) :
    s.queue.drained = true := by
  cases e with
  | append writer text =>
      rw [Log.step, Log.append] at h
      cases hstop : rfind newline (s.buffers writer ++ text) <;> simp [hstop, Log.submit] at h
  | exit writer =>
      rw [Log.step, Log.exit] at h
      cases hline : s.buffers writer <;> simp [hline, Log.submit] at h
  | writer =>
      rw [Log.step, Log.writeLines] at h
      split at h <;> simp at h
  | callFlush caller =>
      rw [Log.step] at h
      split at h <;> cases h
  | tryLock caller acquired expired =>
      rw [Log.step] at h
      split at h
      · cases acquired with
        | true => exact drained_of_waitDrained h
        | false => cases expired <;> simp [Log.returnFrom] at h
      · cases h
  | wake caller expired =>
      rw [Log.step] at h
      split at h
      · exact drained_of_waitDrained h
      · cases h

end Steps

private theorem accounts_after (es : List Event) :
    ∃ ledger, Accounts ledger (logger.trace es) (logger.after es).queue (logger.after es).writer := by
  apply logger.trace_invariant fun trace s => ∃ ledger, Accounts ledger trace s.queue s.writer
  · exact ⟨Ledger.empty, Accounts.init⟩
  · intro trace s e hbefore
    obtain ⟨ledger, h⟩ := hbefore
    exact step_continues h e

/-- What the log promises of a run. The lines are written in the order of their submission, with one
notice in the place of all that were dropped between two batches; the counter is that of the queued
lines and bounded; when `flush` returns true, all lines from before the call are settled. -/
structure LogAccounting (es : List Event) : Prop where
  inOrder : ∃ ledger : Ledger Text, submitted (logger.trace es) = ledger.items ∧
    ledger.queued = (logger.after es).queue.lines ∧
    totalBytes ledger.dropped = (logger.after es).queue.droppedBytes ∧
    written (logger.trace es) <+: ledgerText ledger
  counted : (logger.after es).queue.bytes = totalBytes (logger.after es).queue.lines
  bounded : (logger.after es).queue.bytes ≤ maxQueuedBytes ∨
    (logger.after es).queue.lines.length = 1
  flushed : ∀ before later e thread, before ++ [.callFlush thread] ++ later ++ [e] = es →
    .flushed thread true ∈
      (logger.step (logger.after (before ++ [.callFlush thread] ++ later)) e).2 →
    ∃ ledger : Ledger Text,
      submitted (logger.trace (before ++ [.callFlush thread] ++ later)) = ledger.items ∧
        submitted (logger.trace before) <+: ledger.batches.flatMap Batch.items ∧
        written (logger.trace (before ++ [.callFlush thread] ++ later)) = ledgerText ledger

theorem logAccounting (es : List Event) : LogAccounting es where
  inOrder := by
    obtain ⟨ledger, h⟩ := accounts_after es
    refine ⟨ledger, h.submitted, h.counts.lines.symm, h.counts.droppedBytes.symm, ?_⟩
    rw [← h.written]
    exact List.prefix_append _ _
  counted := by
    obtain ⟨ledger, h⟩ := accounts_after es
    rw [h.counts.bytes, ← h.counts.lines]
  bounded := by
    obtain ⟨ledger, h⟩ := accounts_after es
    exact h.bounded
  flushed before later e thread _ hflushed := by
    obtain ⟨ledger, h⟩ := accounts_after (before ++ [.callFlush thread] ++ later)
    have hdrained := drained_of_flushed hflushed
    rw [Queue.drained, Bool.and_eq_true, List.isEmpty_iff, Bool.not_eq_true'] at hdrained
    obtain ⟨hlines, hidle⟩ := hdrained
    refine ⟨ledger, h.submitted, ?_, ?_⟩
    · have hqueued : ledger.queued = [] := by rw [← h.counts.lines, hlines]
      rw [← ledger.items_of_queued_eq_nil hqueued, ← h.submitted, List.append_assoc,
        Machine.trace_append, submitted_append]
      exact List.prefix_append _ _
    · have hwritten := h.written
      rw [left_of_idle (h.writing.symm.trans hidle), List.append_nil] at hwritten
      exact hwritten

end AogTaskController.AsyncLog
