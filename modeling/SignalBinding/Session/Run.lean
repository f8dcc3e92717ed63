import SignalBinding.Session.Workspace

/-!
# Runs

A run loads a bridge and the configuration, generates the texts and writes those that have a file.
All that may fail because of what the user wrote is done before the first output is written.

## Main definitions

- `Session.loadConfig`, `Session.loadBridge`: files of a project
- `RunRequest`: what a run is asked for
- `Session.run`: a run
-/

namespace SignalBinding

/-- Where the configuration of a run comes from. -/
inductive ConfigSource
  | given (c : Config)
  /-- A configuration file, or a folder with one. -/
  | «at» (p : Path)
  /-- The folder of the bridge file. -/
  | besideBridge

/-- What a run is asked for. -/
structure RunRequest where
  bridge : Path
  config : ConfigSource := .besideBridge
  /-- Where the header goes, in place of what the configuration says. -/
  header? : Option Path := none
  /-- Where the source goes, in place of what the configuration says. -/
  source? : Option Path := none
  /-- A template folder of the generator's own, which counts before that of the configuration. -/
  ownTemplates? : Option String := none

namespace Session

open Generation (bridgeReporter)

/-- The configuration file that a path means: a folder stands for the file of the usual name in
it. -/
def configFile (w : Workspace) (p : Path) : Path :=
  let p := p.expandHome w.home
  if w.files.isFolder (w.way p) then (p.child Config.fileName).resolve w.folder
  else p.resolve w.folder

/-- Loads a configuration; one that is missing says nothing. -/
def loadConfig (p : Path) : Session Config := do
  let w ← get
  let file := configFile w p
  if (w.files.find? (w.way file)).isNone then return { root := file.parent }
  else
    let text ← readText file
    match Config.ofText w.libraries.decode w.home file.parent file.name text with
    | .ok c => return c
    | .error e => throw (.config e)

/-- Loads a bridge. -/
def loadBridge (p : Path) : Session Bridge := do
  let w ← get
  let p := p.expandHome w.home
  if w.files.isFile (w.way p) then
    let text ← readText p
    match Bridge.ofText w.libraries.decode p.name text with
    | .ok b => return b
    | .error e => throw (.bridge e)
  else throw (.bridgeMissing p)

/-! ### Records of a run -/

def startRecord (bridge : Path) : Record :=
  bridgeReporter.record .info ("Starting generation for " ++ bridge.text)

def bridgeRecord (b : Bridge) : Record :=
  bridgeReporter.record .debug ("Bridge declares " ++ toString b.objects.length ++
    " QObject(s) and " ++ toString b.freeSignals.length ++ " free signal(s)")

def wroteRecord (p : Path) : Record :=
  bridgeReporter.record .info ("Wrote " ++ p.text)

def endRecord (r : Report) : Record :=
  bridgeReporter.record .info ("Generated " ++ toString r.owners.length ++
    " owner(s) with " ++ toString r.skipped.length ++ " failure(s)")

/-! ### The steps of a run -/

/-- Generates a bridge with the templates of a configuration. -/
def generate (b : Bridge) (c : Config) (ownTemplates? : Option String) : Session Report := do
  let w ← get
  let templates :=
    match ownTemplates?, c.templates? with
    | some own, _ => w.templates (Path.ofText own) (w.settledFor own)
    | none, some folder => w.templates folder []
    | none, none => TemplateSet.builtin
  match ownTemplates? with
  | none => pure ()
  | some own =>
    let used := usedBefore templates (b.renderings (some c.table))
    let fresh := used.filter fun name => (w.override? (Path.ofText own) name).isNone
    set { w with settled := (own, w.settledFor own ++ fresh) :: w.settled }
  let journal := b.generate (some c.table) templates
  tellAll journal.records
  match journal.result with
  | .ok r => return r
  | .error e => throw (.template e)

/-- Writes a text to its file, if it has one. -/
def output (target? : Option Path) (text : String) : Session Unit := do
  match target? with
  | none => return ()
  | some p =>
    writeText p text
    tell (wroteRecord p)

/-- A run. -/
def run (q : RunRequest) : Session Report := do
  let w ← get
  let path := (q.bridge.expandHome w.home).resolve w.folder
  tell (startRecord path)
  let c ←
    match q.config with
    | .given c => pure c
    | .at p => loadConfig p
    | .besideBridge => loadConfig path.parent
  let b ← loadBridge path
  tell (bridgeRecord b)
  let r ← generate b c q.ownTemplates?
  output (q.header?.orElse fun _ => c.header?) r.header
  output (q.source?.orElse fun _ => c.source?) r.source
  tell (endRecord r)
  return r

end Session

end SignalBinding
