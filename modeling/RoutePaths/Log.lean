/-!
# RoutePaths.Log

Records of what the program reports while it works.
-/

namespace RoutePaths

/-- How much a log record matters. -/
inductive Level where
  | debug
  | info
  | warning
  deriving Repr, DecidableEq, Inhabited

namespace Level

/-- The name of a level in the log. -/
def name : Level → String
  | debug => "DEBUG"
  | info => "INFO"
  | warning => "WARNING"

/-- The rank of a level; higher matters more. -/
def rank : Level → Nat
  | debug => 0
  | info => 1
  | warning => 2

end Level

/-- One entry of the log. -/
structure LogRecord where
  level : Level
  message : String
  /-- The wording of the error that the record is about. -/
  detail : Option String := none
  deriving Repr, DecidableEq, Inhabited

namespace LogRecord

/-- What a record says in full. -/
def text (r : LogRecord) : String :=
  match r.detail with
  | none => r.message
  | some detail => r.message ++ ": " ++ detail

/-- How a record is shown on a terminal, without its detail. -/
def line (r : LogRecord) : String := r.level.name ++ ": " ++ r.message

end LogRecord

end RoutePaths
