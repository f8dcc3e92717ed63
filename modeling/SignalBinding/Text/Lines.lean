/-!
# Text files

The text that a file holds: its bytes as UTF-8, with every kind of line end read as one line feed.
-/

namespace SignalBinding.Text

/-- The characters with a line feed for each carriage return, alone or before a line feed. -/
def unifyLineEnds : List Char → List Char
  | [] => []
  | '\r' :: '\n' :: rest => '\n' :: unifyLineEnds rest
  | '\r' :: rest => '\n' :: unifyLineEnds rest
  | c :: rest => c :: unifyLineEnds rest

/-- The text of a file; none if its bytes are not UTF-8. -/
def ofBytes? (bytes : ByteArray) : Option String :=
  (String.fromUTF8? bytes).map fun s => String.ofList (unifyLineEnds s.toList)

end SignalBinding.Text
