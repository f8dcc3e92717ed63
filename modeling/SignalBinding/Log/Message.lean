import SignalBinding.Document.Text

/-!
# Messages with places

The text of a message may have places that are filled with values when it is made: `%s` is a place
for any value, `%d` one for a whole number, and `%%` a percent sign. A message without values has no
places.
-/

namespace SignalBinding.Message

/-- A value as a whole number; a truth value counts as 0 or 1. -/
def wholeText : Document → String
  | .atom (.bool b) => toString (Atom.truthInt b)
  | d => d.print

/-- Fills values into the places of a text, from the left. -/
def fill : List Char → List Document → List Char
  | '%' :: '%' :: rest, ds => '%' :: fill rest ds
  | '%' :: 's' :: rest, d :: ds => d.print.toList ++ fill rest ds
  | '%' :: 'd' :: rest, d :: ds => (wholeText d).toList ++ fill rest ds
  | c :: rest, ds => c :: fill rest ds
  | [], _ => []

/-- The text of a message with its values. -/
def text (places : String) (values : List Document) : String :=
  if values.isEmpty then places else String.ofList (fill places.toList values)

example : text "%d of %s, 100%%" [.atom (.bool true), .atom (.text "%s")] = "1 of %s, 100%" := by
  decide

example : text "100%" [] = "100%" := by decide

end SignalBinding.Message
