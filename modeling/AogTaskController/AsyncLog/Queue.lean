import AogTaskController.Framework.LossyQueue
import AogTaskController.Framework.Machine
import Mathlib.Logic.Function.Basic

/-!
# The log queue

Threads collect their output in line buffers and submit it a line at a time; a background thread
writes it to `std::cout`. Each region under the mutex is one step, and so is each text that the writer
writes without the mutex. The notice about dropped bytes is one text here; the source puts it together
in three output operations, one behind the other on the writer's thread. The byte counters are natural
numbers: 2^64 bytes of log are out of reach.
-/

namespace AogTaskController.AsyncLog

open Framework

/-- Characters as bytes. -/
abbrev Text := List UInt8

def newline : UInt8 := 10

def maxQueuedBytes : Nat := 8 * 1024 * 1024

structure Queue where
  lines : List Text := []
  bytes : Nat := 0
  droppedBytes : Nat := 0
  writing : Bool := false

/-- The loop of `submit` that drops the oldest lines. -/
def dropOldestLines : List Text → Nat → Nat → List Text × Nat × Nat
  | front :: next :: rest, bytes, droppedBytes =>
      if maxQueuedBytes < bytes then
        dropOldestLines (next :: rest) (bytes - front.length) (droppedBytes + front.length)
      else (front :: next :: rest, bytes, droppedBytes)
  | lines, bytes, droppedBytes => (lines, bytes, droppedBytes)

def Queue.submit (q : Queue) (line : Text) : Queue :=
  let x := dropOldestLines (q.lines ++ [line]) (q.bytes + line.length) q.droppedBytes
  { q with lines := x.1, bytes := x.2.1, droppedBytes := x.2.2 }

def Queue.drained (q : Queue) : Bool := q.lines.isEmpty && !q.writing

def dropNotice (dropped : Nat) : Text :=
  ("[AsyncLog] dropped " ++ toString dropped ++ " bytes of backlogged log output\n").toUTF8.toList

/-- The writer waits for lines, or still has to write some texts. -/
inductive Writer
  | waiting
  | writing (left : List Text)

inductive FlushCall
  | none
  | locking
  | waiting

structure Log where
  queue : Queue := {}
  writer : Writer := .waiting
  buffers : Nat → Text := fun _ => []
  flushCalls : Nat → FlushCall := fun _ => .none

inductive Event
  /-- A thread's stream gets a text, or one character. -/
  | append (thread : Nat) (text : Text)
  /-- The line buffer of a thread is destroyed. -/
  | exit (thread : Nat)
  | writer
  | callFlush (thread : Nat)
  | tryLock (thread : Nat) (acquired expired : Bool)
  | wake (thread : Nat) (expired : Bool)

inductive Observed
  | submitted (line : Text)
  | wrote (text : Text)
  | flushed (thread : Nat) (result : Bool)

def rfind (c : UInt8) : Text → Option Nat
  | [] => none
  | x :: text => ((rfind c text).map (· + 1)).or (if x = c then some 0 else none)

namespace Log

def submit (s : Log) (line : Text) : Log × List Observed :=
  ({ s with queue := s.queue.submit line }, [.submitted line])

/-- `LineBuffer::append`. -/
def append (s : Log) (thread : Nat) (text : Text) : Log × List Observed :=
  let line := s.buffers thread ++ text
  match rfind newline line with
  | some stop =>
      { s with buffers := Function.update s.buffers thread (line.drop (stop + 1)) }.submit
        (line.take (stop + 1))
  | none => ({ s with buffers := Function.update s.buffers thread line }, [])

def exit (s : Log) (thread : Nat) : Log × List Observed :=
  let line := s.buffers thread
  let s' := { s with buffers := Function.update s.buffers thread [] }
  if line.isEmpty then (s', []) else s'.submit line

/-- The writer, with the mutex, where it waits for lines: it takes all there are. -/
def waitForLines (s : Log) : Log :=
  if s.queue.lines.isEmpty then { s with writer := .waiting }
  else
    let notice := if s.queue.droppedBytes ≠ 0 then [dropNotice s.queue.droppedBytes] else []
    { s with
      queue := { lines := [], bytes := 0, droppedBytes := 0, writing := true }
      writer := .writing (notice ++ s.queue.lines) }

/-- The next step of `write_lines`. -/
def writeLines (s : Log) : Log × List Observed :=
  match s.writer with
  | .waiting => (s.waitForLines, [])
  | .writing (text :: left) => ({ s with writer := .writing left }, [.wrote text])
  | .writing [] => ({ s with queue := { s.queue with writing := false } }.waitForLines, [])

def returnFrom (s : Log) (thread : Nat) (result : Bool) : Log × List Observed :=
  ({ s with flushCalls := Function.update s.flushCalls thread .none }, [.flushed thread result])

def waitDrained (s : Log) (thread : Nat) (expired : Bool) : Log × List Observed :=
  if s.queue.drained then s.returnFrom thread true
  else if expired then s.returnFrom thread false
  else ({ s with flushCalls := Function.update s.flushCalls thread .waiting }, [])

def step (s : Log) : Event → Log × List Observed
  | .append thread text => s.append thread text
  | .exit thread => s.exit thread
  | .writer => s.writeLines
  | .callFlush thread =>
      match s.flushCalls thread with
      | .none => ({ s with flushCalls := Function.update s.flushCalls thread .locking }, [])
      | _ => (s, [])
  | .tryLock thread acquired expired =>
      match s.flushCalls thread with
      | .locking =>
          if acquired then s.waitDrained thread expired
          else if expired then s.returnFrom thread false
          else (s, [])
      | _ => (s, [])
  | .wake thread expired =>
      match s.flushCalls thread with
      | .waiting => s.waitDrained thread expired
      | _ => (s, [])

end Log

def logger : Machine Log Event Observed where
  init := {}
  step := Log.step

def submitted (trace : List Observed) : List Text :=
  trace.filterMap fun
    | .submitted line => some line
    | _ => none

def written (trace : List Observed) : List Text :=
  trace.filterMap fun
    | .wrote text => some text
    | _ => none

def totalBytes (lines : List Text) : Nat := lines.flatten.length

end AogTaskController.AsyncLog
