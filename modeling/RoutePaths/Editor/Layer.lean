import RoutePaths.Editor.Scheduler

/-!
# RoutePaths.Editor.Layer

The annotation layer of an editor as a state machine.  A command acts on the
handle, the session or the scheduler, or makes a timer go off:

1. a timer that goes off does nothing unless it is current; else the editor is
   asked whether the document is the active one, and if it is, and the timer
   is current still, the document is refreshed with the timer's snapshot;
2. while the editor is asked, anything may happen: one command can be stored
   that is carried out during the next question, before it is answered;
3. a command that fails keeps what it changed before it failed;
4. all that happens is recorded, in order.
-/

namespace RoutePaths.Editor

/-! ## States -/

/-- Which documents the editor says are active. -/
inductive Activity where
  | all (isActive : Bool)
  | only (ids : List String)
  deriving Repr, DecidableEq, Inhabited

/-- What the editor answers for a document. -/
def Activity.answer : Activity → String → Bool
  | all isActive, _ => isActive
  | only ids, id => ids.contains id

/-- What can happen to the layer. -/
inductive Command where
  | acquire
  | release
  | set (id : String) (decorations : List Decoration)
  | get (id : String)
  | clear (id : String)
  | clearAll
  | toggle
  | refresh (doc : Document)
  | close (doc : Document)
  | schedule (doc : Document)
  | cancel
  /-- The timer of that number goes off. -/
  | fire (timer : Nat)
  /-- The editor changes its mind about which documents are active. -/
  | activate (activity : Activity)
  /-- Store a command for the next question. -/
  | onCheck (command : Command)
  deriving Repr, DecidableEq, Inhabited

/-- What a command answers. -/
inductive Reply where
  | nothing
  /-- The acquired handle. -/
  | handle
  | message (text : String)
  | decorations (list : List Decoration)
  deriving Repr, DecidableEq, Inhabited

/-- Something that happened in the layer. -/
inductive Event where
  /-- A command began to be carried out. -/
  | began (command : Command)
  /-- The editor answered whether a document is active. -/
  | answered (id : String) (isActive : Bool)
  /-- The session was told to refresh the snapshot of a timer that went off; its
  request has that count. -/
  | refreshed (timer : Nat) (snapshot : Document) (generation : Nat)
  deriving Repr, DecidableEq, Inhabited

/-- The state of the layer. -/
structure Layer where
  session : Session
  scheduler : Scheduler
  activity : Activity := .all true
  /-- The command stored for the next question. -/
  stored : Option Command := none
  /-- The documents that the editor was asked about. -/
  checks : List String := []
  /-- All that happened, in order. -/
  history : List Event := []
  deriving Repr, DecidableEq, Inhabited

namespace Layer

/-- The layer with one more event. -/
def recorded (l : Layer) (event : Event) : Layer := { l with history := l.history ++ [event] }

/-! ## Timers -/

/-- What the layer does when the editor is asked about a document. -/
abbrev Check := Layer → Document → Except HandleError Bool × Layer

/-- The layer while the editor is asked about a document.  The question is
written down, and nothing is stored any more, so a question that comes up in
the meantime is only answered. -/
def asked (l : Layer) (doc : Document) : Layer :=
  { l with checks := l.checks ++ [doc.id], stored := none }

/-- The editor answers the question about a document. -/
def answered (l : Layer) (doc : Document) : Except HandleError Bool × Layer :=
  let answer := l.activity.answer doc.id
  (.ok answer, l.recorded (.answered doc.id answer))

/-- The question is asked and answered. -/
def quietCheck : Check := fun l doc => (l.asked doc).answered doc

/-- Show the snapshot of a timer if it is current still. -/
def showSnapshot (l : Layer) (n : Nat) (t : Timer) : Except HandleError Unit × Layer :=
  if l.scheduler.isCurrent t then
    let l := l.recorded (.refreshed n t.document t.generation)
    match l.session.refresh t.document with
    | .error e => (.error e, l)
    | .ok (_, session) => (.ok (), { l with session })
  else (.ok (), l)

/-- The layer where a document waits for no timer. -/
def unlisted (l : Layer) (id : String) : Layer :=
  { l with scheduler := { l.scheduler with pending := l.scheduler.pending.erase id } }

/-- The layer with a note that a timer went off. -/
def noted (l : Layer) (n : Nat) : Layer :=
  { l with scheduler := l.scheduler.modifyTimer n fun t => { t with hasFired := true } }

/-- What a timer that went off does with the answer to its question. -/
def resume (n : Nat) (t : Timer) : Except HandleError Bool × Layer → Except HandleError Unit × Layer
  | (.error e, l) => (.error e, l)
  | (.ok false, l) => (.ok (), l)
  | (.ok true, l) => l.showSnapshot n t

/-- A timer goes off. -/
def fireWith (check : Check) (l : Layer) (n : Nat) : Except HandleError Unit × Layer :=
  match l.scheduler.timers[n]? with
  | none => (.ok (), l)
  | some t =>
    if l.scheduler.isCurrent t then
      resume n t (check ((l.noted n).unlisted t.document.id) t.document)
    else (.ok (), l.noted n)

/-! ## Commands -/

/-- The layer with another handle. -/
def withHandle (l : Layer) (handle : Handle) : Layer :=
  { l with session := { l.session with handle } }

/-- The answer of an operation that changes the handle only. -/
def onHandle (l : Layer) (result : Except HandleError Handle) : Except HandleError Reply × Layer :=
  match result with
  | .error e => (.error e, l)
  | .ok handle => (.ok .nothing, l.withHandle handle)

/-- Carry out a command that has begun; timers go off as `fire` says. -/
def perform (fire : Layer → Nat → Except HandleError Unit × Layer) (l : Layer) :
    Command → Except HandleError Reply × Layer
  | .acquire => (.ok .handle, l.withHandle l.session.handle.acquire)
  | .release => (.ok .nothing, l.withHandle l.session.handle.release)
  | .set id ds => l.onHandle (l.session.handle.set id ds)
  | .get id => ((l.session.handle.get id).map .decorations, l)
  | .clear id => l.onHandle (l.session.handle.clear id)
  | .clearAll => l.onHandle l.session.handle.clearAll
  | .toggle =>
    let (result, session) := l.session.toggle
    (result.map .message, { l with session })
  | .refresh doc =>
    match l.session.refresh doc with
    | .error e => (.error e, l)
    | .ok (ds, session) => (.ok (.decorations ds), { l with session })
  | .close doc =>
    match l.session.close doc with
    | .error e => (.error e, l)
    | .ok session => (.ok .nothing, { l with session })
  | .schedule doc => (.ok .nothing, { l with scheduler := l.scheduler.schedule doc })
  | .cancel => (.ok .nothing, { l with scheduler := l.scheduler.cancel })
  | .fire n =>
    let (result, l) := fire l n
    (result.map fun _ => .nothing, l)
  | .activate activity => (.ok .nothing, { l with activity })
  | .onCheck command => (.ok .nothing, { l with stored := some command })

/-- Begin a command and carry it out; timers go off as `fire` says. -/
def runWith (fire : Layer → Nat → Except HandleError Unit × Layer) (l : Layer)
    (command : Command) : Except HandleError Reply × Layer :=
  perform fire (l.recorded (.began command)) command

/-- The question is asked, the stored command is carried out, and then the
question is answered. -/
def check : Check := fun l doc =>
  match l.stored with
  | none => quietCheck l doc
  | some command =>
    match runWith (fireWith quietCheck) (l.asked doc) command with
    | (.error e, l) => (.error e, l)
    | (.ok _, l) => l.answered doc

/-- Carry out a command. -/
def run (l : Layer) (command : Command) : Except HandleError Reply × Layer :=
  runWith (fireWith check) l command

/-- The layer after some commands. -/
def runAll (l : Layer) (commands : List Command) : Layer :=
  commands.foldl (fun l command => (l.run command).2) l

end Layer

end RoutePaths.Editor
