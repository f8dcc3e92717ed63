/-!
# Topics

Records are filed under topics, whose names are words with points between them. A topic is below
the nearest topic in use whose name one gets by cutting it at a point; but of two points next to
each other, the left one is passed over. So a topic may well start with the name of another one and
not be below it.

## Main definitions

- `topic`: the topic of a part of the library
- `Topic.above`: where a name may be cut
- `Topic.isFiled`: whether a topic is below the one of the library
-/

namespace SignalBinding

/-- The topic under which all records of this library are filed. -/
def rootTopic : String := "signalgen"

/-- The topic `name` below the root, or the root for no name and for an empty one. -/
def topic (name : Option String) : String :=
  match name with
  | none => rootTopic
  | some name => if name = "" then rootTopic else rootTopic ++ "." ++ name

namespace Topic

/-- What is in front of the points at which a name is cut, from the right. The names are written
from right to left. -/
def above (reversed : List Char) : List (List Char) :=
  match h : reversed.dropWhile (· != '.') with
  | [] | [_] => []
  | _ :: c :: rest =>
    have : rest.length < reversed.length := by
      have := (List.dropWhile_suffix (l := reversed) (· != '.')).length_le
      simp only [h, List.length_cons] at this
      omega
    (c :: rest) :: above rest
termination_by reversed.length

/-- The topic that a topic is below, if it is one of `used`. -/
def parent? (used : List String) (t : String) : Option String :=
  ((above t.toList.reverse).map fun cs => String.ofList cs.reverse).find? (· ∈ used)

/-- Whether a topic is below the root, or is the root, when the topics `used` are in use. The bound
is on the number of topics in between. -/
def isBelow (used : List String) : Nat → String → Bool
  | 0, _ => false
  | bound + 1, t =>
    t == rootTopic ||
      match parent? used t with
      | some above => isBelow used bound above
      | none => false

/-- Whether records of a topic go where those of the library go. -/
def isFiled (used : List String) (t : String) : Bool :=
  isBelow (rootTopic :: used) (t.length + 1) t

example : ["signalgen.a..b", "signalgen.", "signalgen..x", "signalgen...x"].map (isFiled []) =
    [true, true, false, true] := by
  decide +kernel

example : isFiled ["signalgen.."] "signalgen...x" = false := by decide +kernel

end Topic

end SignalBinding
