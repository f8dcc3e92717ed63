import SignalBinding.CommandLine.Command

/-!
# Inputs of a command

The paths that a command may look at or write to. Part of them are in the configuration, so they
are found in two steps: first those that lead to the configuration, then the others.

## Main definitions

- `Generate.inputs`, `Generate.furtherInputs`: the paths of the two steps
- `placesOnWay`: the places in a file tree that a way may pass
-/

namespace SignalBinding

namespace CommandLine

/-- The paths of the bridge and of the configuration. -/
def Generate.inputs (g : Generate) (folder home : Path) : List Path :=
  let config := (g.configPath folder home).expandHome home
  [(g.bridgePath home).resolve folder, config, config.child Config.fileName,
    config.resolve folder, (config.child Config.fileName).resolve folder]

/-- The paths of the outputs, of the log and of the templates. -/
def Generate.furtherInputs (g : Generate) (c : Config) : List Path :=
  let (header?, source?) := g.targets c
  let templates :=
    match c.templates? with
    | none => []
    | some folder =>
      TemplateName.all.map fun name => (folder.child "signals").child name.fileName
  [header?, source?, c.logFile?].filterMap id ++ templates

end CommandLine

namespace FileTree

/-- The places that a way may pass, from a folder on. -/
def placesOnWay (from_ : Place) : List String → List Place
  | [] => []
  | step :: rest =>
    if step = ".." then placesOnWay from_.dropLast rest
    else (from_ ++ [step]) :: placesOnWay (from_ ++ [step]) rest

end FileTree

/-- The places that some paths may pass. -/
def Workspace.placesOf (w : Workspace) (paths : List Path) : List Place :=
  (paths.flatMap fun p => FileTree.placesOnWay [] (w.way p)).eraseDups

end SignalBinding
