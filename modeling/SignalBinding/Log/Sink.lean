import SignalBinding.Files.Tree
import SignalBinding.Log.Record

/-!
# Where records go

A handler puts records at and above its level into a sink, as lines: what the user sees, or an open
log file. Each kind of sink has lines of its own.

## Main definitions

- `LogFile`, `Sink`: what lines are put into
- `Handler`: a sink with a level
- `Record.shown`, `Record.written`: records as lines
-/

namespace SignalBinding

/-- An open log file. -/
structure LogFile where
  place : Place
  number : Nat
  deriving DecidableEq, Repr, Inhabited

/-- What lines are put into. -/
inductive Sink
  /-- What the user sees. -/
  | user
  /-- A log file, until it is closed. -/
  | file (open? : Option LogFile)
  deriving DecidableEq, Repr, Inhabited

namespace Sink

/-- The log file of a sink, if it has one that is open. -/
def file? : Sink → Option LogFile
  | user => none
  | file open? => open?

def close : Sink → Sink
  | user => user
  | file _ => file none

end Sink

/-- A sink, and the level that records must have for it. -/
structure Handler where
  sink : Sink
  level : Level
  deriving DecidableEq, Repr, Inhabited

namespace Handler

def takes (h : Handler) (r : Record) : Bool :=
  h.level.rank ≤ r.level.rank

/-- Gives the log file back, if there is one. -/
def close (h : Handler) : Handler :=
  { h with sink := h.sink.close }

end Handler

namespace Record

/-- The record's owner in front of its message; an empty owner counts as none. -/
def tagged (r : Record) : String :=
  match r.owner with
  | some owner => if owner = "" then r.message else owner ++ ": " ++ r.message
  | none => r.message

/-- The line that a user sees. -/
def shown (r : Record) : String :=
  "[signalgen] " ++ r.level.name ++ " " ++ r.tagged ++ "\n"

/-- The line in a log file, behind the time `time`. -/
def written (time : String) (r : Record) : String :=
  time ++ " " ++ r.level.name ++ " " ++ r.topic ++ ": " ++ r.tagged ++ "\n"

/-- The line that a user sees of a record for which there is no handler. -/
def bare (r : Record) : String :=
  r.message ++ "\n"

end Record

end SignalBinding
