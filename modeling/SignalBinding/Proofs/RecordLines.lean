import SignalBinding.Session.Workspace

/-!
# What becomes of a record

What the user is shown of a record, and which lines it adds to which log files, is for its loggers
and for the levels of their handlers to decide. By that, and by nothing else, a record changes a
workspace.

## Main definitions

- `LogLines`, `FileTree.receive`: lines on their way to log files
- `Record.shownFrom`: the lines of records from a threshold on
- `Logger.shown`, `Logger.written`: what becomes of a record, given its loggers
- `Logger.shownOf`, `Logger.files`: what is shown of records of the library, and where they are
  written to

## Main statements

- `Workspace.log_eq`: how a record changes a workspace
- `Logger.shownOf_setUp`, `Logger.written_setUp`: a logger that has been set up gives each record
  from its threshold on to the user once and to its file once
-/

namespace SignalBinding

/-- Lines for log files, in the order in which they are written. -/
abbrev LogLines : Type := List (LogFile × ByteArray)

/-- The files behind some lines. -/
def FileTree.receive (tree : FileTree) (lines : LogLines) : FileTree :=
  lines.foldl (fun tree line => tree.append line.1.place line.1.number line.2) tree

theorem FileTree.receive_append (tree : FileTree) (lines lines' : LogLines) :
    tree.receive (lines ++ lines') = (tree.receive lines).receive lines' :=
  List.foldl_append

/-- The lines of the records from the threshold on, each once and in order. -/
def Record.shownFrom (threshold : Level) (rs : List Record) : String :=
  String.join ((rs.filter fun r => threshold.rank ≤ r.level.rank).map Record.shown)

namespace Handler

/-- What the user sees of a record. -/
def shown (h : Handler) (r : Record) : String :=
  if h.takes r ∧ h.sink = .user then r.shown else ""

/-- What log files receive of a record. -/
def written (h : Handler) (time : String) (r : Record) : LogLines :=
  if h.takes r then (h.sink.file?.map fun f => (f, (r.written time).toUTF8)).toList else []

theorem file?_of_mem_written {h : Handler} {time : String} {r : Record} {line : LogFile × ByteArray}
    (hline : line ∈ h.written time r) : h.sink.file? = some line.1 := by
  rw [written] at hline
  split at hline
  · obtain ⟨f, hf, rfl⟩ := by simpa using hline
    exact hf
  · cases hline

end Handler

namespace Logger

variable {chain : List Logger} {r : Record}

/-- What the user sees of a record, of which the loggers are `chain`. -/
def shown (chain : List Logger) (r : Record) : String :=
  if (threshold chain).rank ≤ r.level.rank then
    match reached chain with
    | [] => if Level.warning.rank ≤ r.level.rank then r.bare else ""
    | hs => String.join (hs.map (·.shown r))
  else ""

/-- What log files receive of a record, of which the loggers are `chain`. -/
def written (chain : List Logger) (time : String) (r : Record) : LogLines :=
  if (threshold chain).rank ≤ r.level.rank then (reached chain).flatMap (·.written time r) else []

/-- What the user sees of some records of the library. -/
def shownOf (l : Logger) (rs : List Record) : String :=
  String.join (rs.map (shown [l, root]))

/-- The open log files that records of the library reach. -/
def files (l : Logger) : List LogFile :=
  (reached [l, root]).filterMap (·.sink.file?)

variable {l : Logger}

theorem shownOf_nil (l : Logger) : l.shownOf [] = "" := rfl

theorem shownOf_append (l : Logger) (rs rs' : List Record) :
    l.shownOf (rs ++ rs') = l.shownOf rs ++ l.shownOf rs' := by
  rw [shownOf, List.map_append, String.join_append]
  rfl

theorem shownOf_singleton (l : Logger) (r : Record) : l.shownOf [r] = shown [l, root] r :=
  String.empty_append

/-- A record is written to open log files that it reaches. -/
theorem mem_files_of_mem_written {time : String} {line : LogFile × ByteArray}
    (h : line ∈ written [l, root] time r) : line.1 ∈ l.files := by
  rw [written] at h
  split at h
  · obtain ⟨handler, hhandler, hline⟩ := List.mem_flatMap.1 h
    exact List.mem_filterMap.2 ⟨handler, hhandler, Handler.file?_of_mem_written hline⟩
  · cases h

theorem written_eq_nil (h : l.files = []) (time : String) (r : Record) :
    written [l, root] time r = [] := by
  rw [List.eq_nil_iff_forall_not_mem]
  intro line hline
  have hfile := mem_files_of_mem_written hline
  rw [h] at hfile
  cases hfile

theorem written_root (time : String) (r : Record) : written [root] time r = [] := by
  rw [written]
  split <;> rfl

/-! ### Loggers that have been set up -/

variable {level : Level} {file? : Option LogFile}

/-- Records stop at a logger that has been set up. -/
theorem reached_setUp (level : Level) (file? : Option LogFile) (above : List Logger) :
    reached (setUp level file? :: above) = (setUp level file?).handlers :=
  List.append_nil _

theorem files_setUp : (setUp level file?).files = file?.toList := by
  cases file? <;> rfl

theorem shown_setUp (level : Level) (file? : Option LogFile) (r : Record) :
    shown [setUp level file?, root] r = if level.rank ≤ r.level.rank then r.shown else "" := by
  rw [shown, reached_setUp]
  change (if level.rank ≤ r.level.rank then _ else "") = _
  split
  next htakes => cases file? <;> simp [setUp, Handler.shown, Handler.takes, htakes]
  next => rfl

theorem written_setUp (level : Level) (file? : Option LogFile) (time : String) (r : Record) :
    written [setUp level file?, root] time r =
      if level.rank ≤ r.level.rank then
        (file?.map fun f => (f, (r.written time).toUTF8)).toList
      else [] := by
  rw [written, reached_setUp]
  change (if level.rank ≤ r.level.rank then _ else []) = _
  split
  next htakes => cases file? <;> simp [setUp, Handler.written, Handler.takes, Sink.file?, htakes]
  next => rfl

/-- Each record from the threshold on is shown once, in the order in which they are made. -/
theorem shownOf_setUp (level : Level) (file? : Option LogFile) (rs : List Record) :
    (setUp level file?).shownOf rs = Record.shownFrom level rs := by
  induction rs with
  | nil => rfl
  | cons r rs ih =>
    rw [← List.singleton_append, shownOf_append, ih, shownOf_singleton, shown_setUp,
      Record.shownFrom, Record.shownFrom, List.filter_append, List.map_append, String.join_append]
    by_cases htakes : level.rank ≤ r.level.rank <;> simp [htakes]

end Logger

namespace Workspace

variable {w : Workspace}

theorem deliver_eq (r : Record) (w : Workspace) (h : Handler) :
    w.deliver r h = { w with
      shown := w.shown ++ h.shown r, files := w.files.receive (h.written w.time r) } := by
  obtain ⟨sink, level⟩ := h
  rw [deliver, Handler.shown, Handler.written]
  split
  next htakes => rcases sink with _ | _ | f <;> simp [htakes, «show», Sink.file?, FileTree.receive]
  next htakes => simp [htakes, FileTree.receive]

theorem foldl_deliver_eq (r : Record) (w : Workspace) (hs : List Handler) :
    hs.foldl (deliver r) w = { w with
      shown := w.shown ++ String.join (hs.map (·.shown r))
      files := w.files.receive (hs.flatMap (·.written w.time r)) } := by
  induction hs generalizing w with
  | nil => simp [FileTree.receive]
  | cons h hs ih =>
    rw [List.foldl_cons, ih, deliver_eq, List.flatMap_cons, FileTree.receive_append, List.map_cons,
      ← List.singleton_append, String.join_append]
    simp [String.append_assoc]

/-- A record changes what is shown and what log files hold, and nothing else. -/
theorem log_eq (w : Workspace) (chain : List Logger) (r : Record) :
    w.log chain r = { w with
      shown := w.shown ++ Logger.shown chain r
      files := w.files.receive (Logger.written chain w.time r) } := by
  rw [log, Logger.shown, Logger.written]
  split
  · cases Logger.reached chain with
    | nil =>
      dsimp only
      split <;> simp [«show», FileTree.receive]
    | cons h hs => exact foldl_deliver_eq r w (h :: hs)
  · simp [FileTree.receive]

theorem record_eq (w : Workspace) (r : Record) :
    w.record r = { w with
      shown := w.shown ++ w.logger.shownOf [r]
      files := w.files.receive (Logger.written [w.logger, .root] w.time r) } := by
  rw [record, log_eq, Logger.shownOf_singleton]

end Workspace

end SignalBinding
