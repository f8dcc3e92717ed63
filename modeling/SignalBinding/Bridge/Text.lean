import SignalBinding.Bridge.Description
import SignalBinding.Yaml.Decoding

/-!
# Bridge files

A bridge file is the YAML text of a bridge description. A text whose value is an empty one, such as
a text without a document, describes the bridge that declares nothing.

## Main definitions

- `TextFault`: why a text has no value
- `Bridge.ofText`: the bridge of a text
-/

namespace SignalBinding

/-- Why the text of a file is not used. -/
inductive TextFault (ε : Type)
  /-- The file `name` is not YAML. -/
  | notYaml (name : String)
  /-- A scalar does not denote a value of the type that it is said to have. -/
  | unconvertible
  /-- The value is not of the form that it should have. -/
  | content (e : ε)
  deriving DecidableEq, Repr

namespace TextFault

/-- The message for a file that is not YAML. -/
def notYamlMessage (name : String) : String :=
  "Failed to parse " ++ name ++ ": <yaml error>"

end TextFault

/-- The value of the text of the file `name`. -/
def decodeFile {ε : Type} (decode : Yaml.Decoder) (name text : String) :
    Except (TextFault ε) Yaml.Value :=
  match decode text with
  | .ok d => .ok d
  | .error .malformed => .error (.notYaml name)
  | .error .unconvertible => .error .unconvertible

/-- The bridge that a value describes; an empty value describes the empty bridge. -/
def Bridge.ofValue {δ : Type} [Layered δ] (d : δ) : Except Description.Fault Bridge :=
  if (layer d).isVoid then .ok {} else Bridge.ofDocument d

/-- The bridge that the text of the file `name` describes. -/
def Bridge.ofText (decode : Yaml.Decoder) (name text : String) :
    Except (TextFault Description.Fault) Bridge := do
  let d ← decodeFile decode name text
  match Bridge.ofValue d with
  | .ok b => return b
  | .error e => throw (.content e)

end SignalBinding
