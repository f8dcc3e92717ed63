import SignalBinding.CommandLine.Words

/-!
# Arguments

What a command line asks for. Options are done in their order: a request for help that comes before
a mistake counts, one that comes behind it does not.

## Main definitions

- `Generate`: the arguments of the command `generate`
- `Request`: what is asked for
- `Request.ofArguments`: what a command line asks for
-/

namespace SignalBinding.CommandLine

/-- The arguments of the command `generate`. -/
structure Generate where
  bridge : String
  config? : Option String := none
  header? : Option String := none
  source? : Option String := none
  verbose : Bool := false
  deriving DecidableEq, Repr, Inhabited

/-- What a command line asks for. -/
inductive Request
  | generate (g : Generate)
  | help
  /-- Help for the command `generate`. -/
  | generateHelp
  | mistake
  deriving DecidableEq, Repr, Inhabited

/-- What the words so far say. -/
structure Progress where
  bridge? : Option String := none
  config? : Option String := none
  header? : Option String := none
  source? : Option String := none
  verbose : Bool := false
  /-- Whether a word came that has no meaning. -/
  surplus : Bool := false

/-- Why reading words stops. -/
inductive Stop
  | help
  | mistake
  deriving DecidableEq, Repr

/-- Does the options without a value that stand in one word. -/
def doFlags (p : Progress) : List Flag → Except Stop Progress
  | [] => .ok p
  | .help :: _ => .error .help
  | _ :: rest => doFlags { p with verbose := true } rest

/-- Gives an option its value; none takes back what was said before. -/
def setValue (p : Progress) (flag : Flag) (value? : Option String) : Progress :=
  match flag with
  | .config => { p with config? := value? }
  | .header => { p with header? := value? }
  | .source => { p with source? := value? }
  | .help | .verbose => p

/-- Does an option, whose value may be the next word. A separator that is attached to an option is
no value. -/
def doOption (known : Vocabulary) (p : Progress) (flag : Flag) (long : Bool)
    (attached? : Option String) (rest : List Word) : Except Stop (Progress × Bool) :=
  if flag.takesValue then
    match attached?, rest with
    | some value, _ => .ok (setValue p flag (if value = "--" then none else some value), false)
    | none, .operand value :: _ => .ok (setValue p flag (some value), true)
    | none, _ => .error .mistake
  else
    match attached? with
    | none => (doFlags p [flag]).map (·, false)
    | some text =>
      if long ∨ text = "" then .error .mistake
      else
        match readCluster known text.toList with
        | none => .error .mistake
        | some flags => (doFlags p (flag :: flags)).map (·, false)

/--
Reads the words behind `generate`. A separator may stand on either side of the bridge, and is
surplus elsewhere.
-/
def readGenerate (p : Progress) : List Word → Except Stop Progress
  | [] => .ok p
  | .unknownOption _ :: rest => readGenerate { p with surplus := true } rest
  | .option flag long attached? :: rest =>
    match doOption generateFlags p flag long attached? rest, rest with
    | .error e, _ => .error e
    | .ok (p, true), _ :: rest => readGenerate p rest
    | .ok (p, _), rest => readGenerate p rest
  | .operand s :: .separator :: rest =>
    if p.bridge?.isSome then readGenerate { p with surplus := true } rest
    else readGenerate { p with bridge? := some s } rest
  | .separator :: .operand s :: rest =>
    if p.bridge?.isSome then readGenerate { p with surplus := true } rest
    else readGenerate { p with bridge? := some s } rest
  | .operand s :: rest =>
    if p.bridge?.isSome then readGenerate { p with surplus := true } rest
    else readGenerate { p with bridge? := some s } rest
  | .separator :: rest => readGenerate { p with surplus := true } rest

/-- The request of the words behind `generate`, when `global` says what came before. -/
def requestOf (before : Progress) (arguments : List String) : Request :=
  match classify generateFlags arguments with
  | none => .mistake
  | some words =>
    match readGenerate before words with
    | .error .help => .generateHelp
    | .error .mistake => .mistake
    | .ok p =>
      match p.bridge?, p.surplus with
      | some bridge, false =>
        .generate {
          bridge, config? := p.config?, header? := p.header?, source? := p.source?
          verbose := p.verbose }
      | _, _ => .mistake

/-- Reads the words up to the command, next to the arguments that they come from. -/
def readGlobal (p : Progress) : List (Word × String) → Request
  | [] => .mistake
  | (.unknownOption _, _) :: rest => readGlobal { p with surplus := true } rest
  | (.option flag long attached?, _) :: rest =>
    match doOption globalFlags p flag long attached? (rest.map Prod.fst) with
    | .error .help => .help
    | .error .mistake => .mistake
    | .ok (p, _) => readGlobal p rest
  | (.operand "generate", _) :: rest => requestOf p (rest.map Prod.snd)
  | (.operand _, _) :: _ => .mistake
  | (.separator, _) :: _ => .mistake

/-- What a command line asks for. -/
def Request.ofArguments (arguments : List String) : Request :=
  match classify globalFlags arguments with
  | none => .mistake
  | some words => readGlobal {} (words.zip arguments)

end SignalBinding.CommandLine
