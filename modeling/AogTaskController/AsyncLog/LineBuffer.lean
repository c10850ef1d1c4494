import AogTaskController.AsyncLog.Queue
import AogTaskController.Framework.LongestPrefix

/-!
# Line buffers

What a stream writes reaches its line buffer in pieces. The buffer submits whatever ends in a
newline and keeps the rest, so that how the text was cut into pieces does not show.
-/

namespace AogTaskController.AsyncLog

open Framework

/-- A call of the stream on its buffer; `overflow` gets one character, or `eof`. -/
inductive StreamCall
  | xsputn (text : Text)
  | overflow (ch : Option UInt8)

def StreamCall.text : StreamCall → Text
  | .xsputn text => text
  | .overflow ch => ch.toList

/-- `LineBuffer::append`: the line that is kept and what is submitted. -/
def appendToLine (line text : Text) : Text × List Text :=
  let line := line ++ text
  match rfind newline line with
  | some stop => (line.drop (stop + 1), [line.take (stop + 1)])
  | none => (line, [])

def lineBuffer : Machine Text StreamCall Text where
  init := []
  step line
    | .xsputn text => appendToLine line text
    | .overflow (some ch) => appendToLine line [ch]
    | .overflow none => (line, [])

def EndsLine (text : Text) : Prop := text.getLast? = some newline

private theorem rfind_eq_none_iff {c : UInt8} {text : Text} : rfind c text = none ↔ c ∉ text := by
  induction text with
  | nil => simp [rfind]
  | cons x text ih =>
      rw [rfind, Option.or_eq_none_iff, Option.map_eq_none_iff, ih, List.mem_cons, not_or, and_comm]
      simp [eq_comm]

private theorem rfind_eq_some {c : UInt8} {text : Text} {stop : Nat}
    (h : rfind c text = some stop) :
    (text.take (stop + 1)).getLast? = some c ∧ c ∉ text.drop (stop + 1) := by
  induction text generalizing stop with
  | nil => cases h
  | cons x text ih =>
      rw [rfind] at h
      cases hrest : rfind c text with
      | none =>
          rw [hrest, Option.map_none, Option.none_or, Option.ite_none_right_eq_some] at h
          obtain ⟨rfl, heq⟩ := h
          obtain rfl := Option.some.inj heq
          exact ⟨rfl, rfind_eq_none_iff.mp hrest⟩
      | some last =>
          rw [hrest, Option.map_some, Option.some_or] at h
          obtain rfl := Option.some.inj h
          obtain ⟨hlast, hbehind⟩ := ih hrest
          refine ⟨?_, hbehind⟩
          rw [List.take_succ_cons, List.getLast?_cons, hlast]
          rfl

private theorem appendToLine_spec (line text : Text) :
    (appendToLine line text).2.flatten ++ (appendToLine line text).1 = line ++ text ∧
      (∀ submitted ∈ (appendToLine line text).2, EndsLine submitted) ∧
      newline ∉ (appendToLine line text).1 := by
  rw [appendToLine]
  cases hstop : rfind newline (line ++ text) with
  | none => exact ⟨rfl, fun _ h => absurd h List.not_mem_nil, rfind_eq_none_iff.mp hstop⟩
  | some stop =>
      obtain ⟨hlast, hbehind⟩ := rfind_eq_some hstop
      refine ⟨?_, ?_, hbehind⟩
      · rw [List.flatten_singleton, List.take_append_drop]
      · intro submitted hsubmitted
        rwa [List.mem_singleton.mp hsubmitted]

private theorem lineBuffer_step_spec (line : Text) (call : StreamCall) (hline : newline ∉ line) :
    (lineBuffer.step line call).2.flatten ++ (lineBuffer.step line call).1 = line ++ call.text ∧
      (∀ submitted ∈ (lineBuffer.step line call).2, EndsLine submitted) ∧
      newline ∉ (lineBuffer.step line call).1 := by
  match call with
  | .xsputn text => exact appendToLine_spec line text
  | .overflow (some ch) => exact appendToLine_spec line [ch]
  | .overflow none =>
      exact ⟨(List.append_nil line).symm, fun _ h => absurd h List.not_mem_nil, hline⟩

private theorem lineBuffer_splits (calls : List StreamCall) :
    (lineBuffer.trace calls).flatten ++ lineBuffer.after calls = calls.flatMap StreamCall.text ∧
      (∀ submitted ∈ lineBuffer.trace calls, EndsLine submitted) ∧
      newline ∉ lineBuffer.after calls := by
  induction calls using List.reverseRecOn with
  | nil => exact ⟨rfl, fun _ h => absurd h List.not_mem_nil, List.not_mem_nil⟩
  | append_singleton calls call ih =>
      obtain ⟨htext, hends, hkept⟩ := ih
      obtain ⟨htext', hends', hkept'⟩ := lineBuffer_step_spec (lineBuffer.after calls) call hkept
      rw [Machine.trace_snoc, Machine.after_snoc]
      refine ⟨?_, ?_, hkept'⟩
      · rw [List.flatten_append, List.append_assoc, htext', ← List.append_assoc, htext,
          List.flatMap_append, List.flatMap_singleton]
      · intro submitted hsubmitted
        rcases List.mem_append.mp hsubmitted with hbefore | hnow
        · exact hends submitted hbefore
        · exact hends' submitted hnow

private theorem flatten_endsLine {lines : List Text} (h : ∀ line ∈ lines, EndsLine line) :
    lines.flatten = [] ∨ EndsLine lines.flatten := by
  induction lines using List.reverseRecOn with
  | nil => exact .inl rfl
  | append_singleton lines line _ =>
      have hline : EndsLine line := h line (by simp)
      refine .inr ?_
      rw [EndsLine, List.flatten_append, List.flatten_singleton, List.getLast?_append, hline]
      rfl

/-- Lines, and a rest without a newline: the lines are the longest prefix that ends in one. -/
private theorem isLongestPrefix_lines {lines : List Text} {rest : Text}
    (hlines : ∀ line ∈ lines, EndsLine line) (hrest : newline ∉ rest) :
    IsLongestPrefix (fun p => p = [] ∨ EndsLine p) lines.flatten (lines.flatten ++ rest) := by
  apply isLongestPrefix_append (flatten_endsLine hlines)
  intro extra hextra hne hends
  rcases hends with hnil | hlast
  · exact hne (List.append_eq_nil_iff.mp hnil).2
  · have hmem : newline ∈ extra := by
      rw [EndsLine, List.getLast?_append_of_ne_nil _ hne] at hlast
      exact List.mem_of_getLast? hlast
    exact hrest (hextra.subset hmem)

/-- However a text is cut into calls, the strings submitted are lines that make up its longest
prefix ending in a newline, and the buffer keeps the rest. -/
theorem lineBuffer_chunking (calls : List StreamCall) :
    let text := calls.flatMap StreamCall.text
    let lines := lineBuffer.trace calls
    let kept := lineBuffer.after calls
    IsLongestPrefix (fun p => p = [] ∨ EndsLine p) lines.flatten text ∧
      (∀ line ∈ lines, EndsLine line) ∧
      lines.flatten ++ kept = text ∧ newline ∉ kept := by
  obtain ⟨htext, hends, hkept⟩ := lineBuffer_splits calls
  refine ⟨?_, hends, htext, hkept⟩
  rw [← htext]
  exact isLongestPrefix_lines hends hkept

namespace Log

private theorem append_eq_appendToLine (s : Log) (thread : Nat) (text : Text) :
    (s.append thread text).1.buffers =
        Function.update s.buffers thread (appendToLine (s.buffers thread) text).1 ∧
      (s.append thread text).2 = (appendToLine (s.buffers thread) text).2.map .submitted := by
  rw [append, appendToLine]
  cases rfind newline (s.buffers thread ++ text) with
  | none => exact ⟨rfl, rfl⟩
  | some stop => exact ⟨rfl, rfl⟩

private theorem exit_buffers (s : Log) (thread : Nat) :
    (s.exit thread).1.buffers = Function.update s.buffers thread [] := by
  rw [exit]
  cases s.buffers thread with
  | nil => rfl
  | cons c line => rfl

private theorem waitForLines_buffers (s : Log) : s.waitForLines.buffers = s.buffers := by
  rw [waitForLines]
  split <;> rfl

private theorem writeLines_buffers (s : Log) : s.writeLines.1.buffers = s.buffers := by
  rw [writeLines]
  split
  · exact waitForLines_buffers s
  · rfl
  · exact waitForLines_buffers _

private theorem waitDrained_buffers (s : Log) (thread : Nat) (expired : Bool) :
    (s.waitDrained thread expired).1.buffers = s.buffers := by
  rw [waitDrained]
  split
  · rfl
  · split <;> rfl

end Log

/-- What an event means for a thread's line buffer, whose calls so far are listed. -/
def streamCallsStep (thread : Nat) (calls : List StreamCall) : Event → List StreamCall
  | .append writer text => if writer = thread then calls ++ [.xsputn text] else calls
  | .exit writer => if writer = thread then [] else calls
  | .writer => calls
  | .callFlush _ => calls
  | .tryLock _ _ _ => calls
  | .wake _ _ => calls

/-- The calls on a thread's line buffer since the previous one was destroyed. -/
def streamCalls (thread : Nat) (events : List Event) : List StreamCall :=
  events.foldl (streamCallsStep thread) []

private theorem streamCallsStep_buffers (thread : Nat) (s : Log) (calls : List StreamCall)
    (event : Event)
    (h : s.buffers thread = lineBuffer.after calls) :
    (s.step event).1.buffers thread = lineBuffer.after (streamCallsStep thread calls event) := by
  cases event with
  | append writer text =>
      rw [Log.step, (s.append_eq_appendToLine writer text).1, streamCallsStep]
      by_cases hwriter : writer = thread
      · rw [hwriter, Function.update_self, if_pos rfl, Machine.after_snoc, h]
        rfl
      · rw [Function.update_of_ne (Ne.symm hwriter), if_neg hwriter, h]
  | exit writer =>
      rw [Log.step, s.exit_buffers writer, streamCallsStep]
      by_cases hwriter : writer = thread
      · rw [hwriter, Function.update_self, if_pos rfl]
        rfl
      · rw [Function.update_of_ne (Ne.symm hwriter), if_neg hwriter, h]
  | writer => rw [Log.step, s.writeLines_buffers, h, streamCallsStep]
  | callFlush caller =>
      rw [streamCallsStep, ← h, Log.step]
      split <;> rfl
  | tryLock caller acquired expired =>
      rw [streamCallsStep, ← h, Log.step]
      split
      · split
        · rw [s.waitDrained_buffers caller expired]
        · split <;> rfl
      · rfl
  | wake caller expired =>
      rw [streamCallsStep, ← h, Log.step]
      split
      · rw [s.waitDrained_buffers caller expired]
      · rfl

/-- In any interleaving each thread's buffer is a line buffer of its own. -/
private theorem buffers_after (thread : Nat) (events : List Event) :
    (logger.after events).buffers thread = lineBuffer.after (streamCalls thread events) := by
  induction events using List.reverseRecOn with
  | nil => rfl
  | append_singleton events event ih =>
      rw [Machine.after_snoc, streamCalls, List.foldl_append]
      exact streamCallsStep_buffers thread _ _ event ih

theorem newline_notMem_buffers (thread : Nat) (events : List Event) :
    newline ∉ (logger.after events).buffers thread := by
  rw [buffers_after]
  exact (lineBuffer_splits _).2.2

/-- Two ways to cut a text into calls submit the same characters and keep the same ones. -/
theorem lineBuffer_independent {calls calls' : List StreamCall}
    (h : calls.flatMap StreamCall.text = calls'.flatMap StreamCall.text) :
    (lineBuffer.trace calls).flatten = (lineBuffer.trace calls').flatten ∧
      lineBuffer.after calls = lineBuffer.after calls' := by
  obtain ⟨htext, hends, hkept⟩ := lineBuffer_splits calls
  obtain ⟨htext', hends', hkept'⟩ := lineBuffer_splits calls'
  have hlongest := isLongestPrefix_lines hends hkept
  rw [htext, h, ← htext'] at hlongest
  have hlines := hlongest.unique (isLongestPrefix_lines hends' hkept')
  have hwhole := htext.trans (h.trans htext'.symm)
  rw [hlines] at hwhole
  exact ⟨hlines, List.append_cancel_left hwhole⟩

end AogTaskController.AsyncLog
