import SignalBinding.Log.Sink

/-!
# Loggers

Records are made with loggers, one for each topic. A logger drops the records below its level; if it
has no level of its own, the nearest logger above it that has one decides. What it does not drop
goes to its handlers, and, unless it keeps records to itself, on to those of the logger above it. Of
a record for which there is no handler at all, the bare message is shown from warnings on.

Only two loggers ever have a level or handlers: the one for the topic of this library, which the
loggers of all topics below stand for, and the root, which no topic is above.

## Main definitions

- `Logger`, `Logger.root`
- `Logger.add`, `Logger.remove`, `Logger.retire`, `Logger.reset`: the handlers of a logger
- `Logger.threshold`, `Logger.reached`: what counts for a record, given the loggers from its own one
  up to the root
- `Logger.setUp`: a logger that has been set up
-/

namespace SignalBinding

/-- What the records of a topic go through. -/
structure Logger where
  level? : Option Level := none
  /-- Whether records go on to the logger above. -/
  propagates : Bool := true
  handlers : List Handler := []
  deriving DecidableEq, Repr, Inhabited

namespace Logger

/-- The logger that is above all others. -/
def root : Logger where
  level? := some .warning

/-! ### Handlers -/

def add (l : Logger) (h : Handler) : Logger :=
  { l with handlers := l.handlers ++ [h] }

def remove (l : Logger) (h : Handler) : Logger :=
  { l with handlers := l.handlers.erase h }

/-- Takes handlers off a logger and closes them, one after the other. Also gives them as they are
behind that. -/
def retire (l : Logger) : List Handler → Logger × List Handler
  | [] => (l, [])
  | h :: hs =>
    let (l, closed) := (l.remove h).retire hs
    (l, h.close :: closed)

/-- Takes off all handlers that a logger has. -/
def reset (l : Logger) : Logger :=
  (l.retire l.handlers).1

theorem retire_of_append {l : Logger} {hs rest : List Handler} (h : l.handlers = hs ++ rest) :
    l.retire hs = ({ l with handlers := rest }, hs.map Handler.close) := by
  induction hs generalizing l with
  | nil =>
    obtain rfl : l.handlers = rest := h
    rfl
  | cons first hs ih =>
    have hrest : (l.remove first).handlers = hs ++ rest := by
      rw [remove, h, List.cons_append, List.erase_cons_head]
    rw [retire, ih hrest]
    rfl

/-- The loop over its own handlers leaves a logger none of them, and all of them closed. -/
theorem retire_handlers (l : Logger) :
    l.retire l.handlers = ({ l with handlers := [] }, l.handlers.map Handler.close) :=
  retire_of_append (List.append_nil _).symm

theorem reset_eq (l : Logger) : l.reset = { l with handlers := [] } := by
  rw [reset, retire_handlers]

/-! ### Records -/

/-- The level from which on records of the first logger are made, when the others are those above
it. -/
def threshold (chain : List Logger) : Level :=
  (chain.findSome? level?).getD .debug

/-- The handlers that records of the first logger go to. -/
def reached : List Logger → List Handler
  | [] => []
  | l :: above => l.handlers ++ if l.propagates then reached above else []

/-- The threshold of a logger that is set up: details count only for users who ask for them. -/
def thresholdOf (verbose : Bool) : Level :=
  if verbose then .debug else .info

/-- A logger with a threshold, a handler for the user, and perhaps one for a file. -/
def setUp (threshold : Level) (file? : Option LogFile) : Logger where
  level? := some threshold
  propagates := false
  handlers := { sink := .user, level := threshold } ::
    (file?.map fun f => { sink := .file (some f), level := threshold }).toList

end Logger

end SignalBinding
