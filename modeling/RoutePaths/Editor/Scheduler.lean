import RoutePaths.Editor.Session

/-!
# RoutePaths.Editor.Scheduler

Waiting before a document is looked at again.  Every edit starts a timer and
cancels the one that the document was waiting for, so that only the newest
snapshot is looked at:

1. timers are numbered in the order in which they were made, and none is ever
   forgotten, because a timer that is cancelled too late still goes off;
2. the requests of a document are counted, every timer carries the count of its
   own request, and only the timer of the last request is current.
-/

namespace RoutePaths.Editor

/-- A timer that was made for a snapshot of a document. -/
structure Timer where
  document : Document
  /-- The count of the request. -/
  generation : Nat
  /-- The waiting time in milliseconds. -/
  interval : Int
  isStarted : Bool := true
  isCancelled : Bool := false
  /-- Whether the timer keeps the editor from closing. -/
  isDaemon : Bool := true
  /-- Whether the timer has gone off. -/
  hasFired : Bool := false
  deriving Repr, DecidableEq, Inhabited

/-- The timers of all documents. -/
structure Scheduler where
  /-- The waiting time in milliseconds. -/
  delay : Int
  /-- The timers by number. -/
  timers : List Timer := []
  /-- The number of the timer that a document waits for. -/
  pending : Ledger String Nat := []
  /-- The number of requests of a document so far. -/
  generations : Ledger String Nat := []
  deriving Repr, DecidableEq, Inhabited

namespace Scheduler

/-- The scheduler with a timer changed. -/
def modifyTimer (s : Scheduler) (n : Nat) (f : Timer → Timer) : Scheduler :=
  { s with timers := s.timers.modify n f }

/-- The scheduler with a timer cancelled. -/
def cancelTimer (s : Scheduler) (n : Nat) : Scheduler :=
  s.modifyTimer n fun t => { t with isCancelled := true }

/-- The scheduler with the timer cancelled that a document waits for. -/
def supersede (s : Scheduler) (id : String) : Scheduler :=
  match s.pending.get? id with
  | none => s
  | some n => { s.cancelTimer n with pending := s.pending.erase id }

/-- The number of requests of a document so far. -/
def generation (s : Scheduler) (id : String) : Nat := (s.generations.get? id).getD 0

/-- The scheduler with one more request for a document. -/
def schedule (s : Scheduler) (doc : Document) : Scheduler :=
  let s := s.supersede doc.id
  let generation := s.generation doc.id + 1
  { s with
    timers := s.timers ++ [{ document := doc, generation, interval := s.delay }]
    pending := s.pending.put doc.id s.timers.length
    generations := s.generations.put doc.id generation }

/-- The scheduler with all timers cancelled that documents wait for. -/
def cancel (s : Scheduler) : Scheduler :=
  { s.pending.foldl (fun s (_, n) => s.cancelTimer n) s with pending := [] }

/-- Whether a timer belongs to the last request of its document. -/
def isCurrent (s : Scheduler) (t : Timer) : Bool :=
  s.generations.get? t.document.id = some t.generation

end Scheduler

end RoutePaths.Editor
