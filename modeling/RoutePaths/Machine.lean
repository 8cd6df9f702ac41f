import RoutePaths.Disk.Basic
import RoutePaths.Log

/-!
# RoutePaths.Machine

What the program works on: a disk, the outcome that a clone would have, and the
record of everything that has been reported so far, in order.  A step is a
function from machines to machines that also gives an answer; a step that can
fail keeps what was changed before the failure.
-/

namespace RoutePaths

/-- Something that can be seen from outside. -/
inductive Event where
  /-- A log record. -/
  | logged (entry : LogRecord)
  /-- Text on the standard output. -/
  | printed (text : String)
  /-- Text on the standard error. -/
  | warned (text : String)
  /-- A call of git with a time limit in seconds. -/
  | called (arguments : List String) (limit : Nat)
  deriving Repr, DecidableEq, Inhabited

/-- How a clone ends. -/
inductive CloneOutcome where
  /-- The folder is filled with entries. -/
  | fetched (entries : List (String × Disk.Node))
  /-- Git reports an error. -/
  | failed (report : String)
  /-- Git takes too long. -/
  | timedOut
  /-- There is no git. -/
  | noGit
  deriving Inhabited

/-- A disk and what happens around it. -/
structure Machine where
  disk : Disk
  /-- How a clone would end. -/
  clone : CloneOutcome
  /-- The way to the folder that a clone goes to. -/
  scratch : List String
  /-- What has been seen so far. -/
  events : List Event := []
  deriving Inhabited

/-- A step that always gives an answer. -/
abbrev Step := StateM Machine

/-- A step that can fail. -/
abbrev Run (ε : Type) := ExceptT ε Step

namespace Machine

/-- Report an event. -/
def report (e : Event) : Step Unit := modify fun m => { m with events := m.events ++ [e] }

/-- Report a log record. -/
def log (level : Level) (message : String) (detail : Option String := none) : Step Unit :=
  report (.logged ⟨level, message, detail⟩)

/-- Report log records. -/
def logAll (entries : List LogRecord) : Step Unit :=
  modify fun m => { m with events := m.events ++ entries.map .logged }

/-- The log records among the events. -/
def logs (m : Machine) : List LogRecord :=
  m.events.filterMap fun
    | .logged entry => some entry
    | _ => none

end Machine

namespace Run

variable {ε α : Type}

/-- The answer of a step that always has one, or the failure it answers with. -/
def ofStep (step : Step (Except ε α)) : Run ε α := ExceptT.mk step

/-- A run followed by a step, whether the run fails or not. -/
def followedBy (run : Run ε α) (after : Step Unit) : Run ε α := ExceptT.mk do
  let result ← run.run
  after
  return result

/-- A run whose failures are told apart as another type. -/
def mapError {ε' : Type} (f : ε → ε') (run : Run ε α) : Run ε' α := ExceptT.mk do
  return (← run.run).mapError f

end Run

end RoutePaths
