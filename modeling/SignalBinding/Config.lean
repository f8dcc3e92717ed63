import SignalBinding.Bridge.Text
import SignalBinding.Files.Path
import SignalBinding.Text.Blank

/-!
# Configuration

What a configuration file says: where the generated texts go, how the log is kept, a name table, and
a folder with templates. Only the name table must be well-formed; every other entry that is not what
it should be is as if it were missing.

## Main definitions

- `Config`: a configuration
- `Config.ofText`: the configuration of a text
-/

namespace SignalBinding

/-- The settings of a project. -/
structure Config where
  /-- The folder of the configuration file; paths start there. -/
  root : Path
  header? : Option Path := none
  source? : Option Path := none
  verbose : Bool := false
  logFile? : Option Path := none
  table : NameTable := {}
  templates? : Option Path := none
  deriving Inhabited

/-- What must not be wrong with a configuration. -/
inductive ConfigFault
  | notMap
  | table (f : Description.Fault)
  deriving DecidableEq, Repr, Inhabited

namespace Config

/-- The usual name of configuration files. -/
def fileName : String := ".signalgen.yml"

end Config

def ConfigFault.message : ConfigFault → String
  | notMap => Config.fileName ++ " must contain a mapping at the root"
  | table f => "Invalid mappings in " ++ Config.fileName ++ ": " ++ f.message

namespace Config

/-- The entries of a map; other values have none. -/
def section? {δ : Type} : Layer δ → List (Atom × δ)
  | .map entries => entries
  | _ => []

/-- A path that is given as a text and not blank, from the folder `root` on. -/
def path? {δ : Type} (home root : Path) : Layer δ → Option Path
  | .atom (.text s) =>
    if Text.allBlank s then none else some (root.append ((Path.ofText s).expandHome home))
  | _ => none

/-- A truth value, which may be written as a text. No other letters than ASCII ones are read. -/
def flag {δ : Type} : Layer δ → Bool
  | .atom (.bool b) => b
  | .atom (.text s) =>
    String.ofList ((Text.trim Text.isBlank s.toList).map Char.toLower) ∈ ["true", "yes", "1"]
  | _ => false

/-- The configuration of a document. -/
def ofDocument {δ : Type} [Layered δ] (home root : Path) (d : δ) : Except ConfigFault Config :=
  match layer d with
  | .map entries =>
    let output := section? (Entries.field "output" entries)
    let logging := section? (Entries.field "logging" entries)
    match Description.tableOf (Entries.field "mappings" entries) with
    | .error f => .error (.table f)
    | .ok table =>
      .ok {
        root, table
        header? := path? home root (Entries.field "header" output)
        source? := path? home root (Entries.field "source" output)
        verbose := flag (Entries.field "verbose" logging)
        logFile? := path? home root (Entries.field "log_file" logging)
        templates? := path? home root (Entries.field "templates_dir" entries) }
  | _ => .error .notMap

/--
The configuration of the text of the file `name` in the folder `root`. A blank text, and one whose
value is null, says nothing.
-/
def ofText (decode : Yaml.Decoder) (home root : Path) (name text : String) :
    Except (TextFault ConfigFault) Config :=
  if Text.allBlank text then .ok { root }
  else do
    let d ← decodeFile decode name text
    match layer d with
    | .atom .null => return { root }
    | _ =>
      match ofDocument home root d with
      | .ok c => return c
      | .error e => throw (.content e)

end Config

end SignalBinding
