import SignalBinding.Decimal.Numeral

/-!
# Words of a command line

Whether a word of a command line is an option or an operand. Long options may be cut short as long
as it is clear which one is meant, and options of one letter may stand together behind one hyphen.

## Main definitions

- `Flag`: the options
- `Word`: what a word is
- `classify`: the words of a command line
- `readCluster`: the options of one letter that a word stands for
-/

namespace SignalBinding.CommandLine

/-- The options. -/
inductive Flag
  | help
  | verbose
  | config
  | header
  | source
  deriving DecidableEq, Repr, Inhabited

/-- Whether an option has a value. -/
def Flag.takesValue : Flag → Bool
  | help | verbose => false
  | config | header | source => true

/-- The options of a command, under all of their names. -/
abbrev Vocabulary : Type := List (String × Flag)

/-- Options in front of the command. -/
def globalFlags : Vocabulary :=
  [("-h", .help), ("--help", .help), ("-v", .verbose), ("--verbose", .verbose)]

/-- Options of the command `generate`. -/
def generateFlags : Vocabulary :=
  globalFlags ++ [("--config", .config), ("--header", .header), ("--source", .source)]

/-- What a word is. -/
inductive Word
  | operand (s : String)
  /-- The word `--`, behind which there are operands only. -/
  | separator
  /-- An option, with the text that is attached to it. -/
  | option (flag : Flag) (long : Bool) (attached? : Option String)
  | unknownOption (s : String)
  deriving DecidableEq, Repr, Inhabited

/-- The text before the first equals sign and the text behind it, if there is one. -/
def splitEquals (s : String) : String × Option String :=
  let cs := s.toList
  match cs.dropWhile (· != '=') with
  | [] => (s, none)
  | _ :: rest => (String.ofList (cs.takeWhile (· != '=')), some (String.ofList rest))

def startsWith (start s : String) : Bool :=
  start.toList.isPrefixOf s.toList

/-- The options that a word may stand for when it is not the full name of one. -/
def candidates (known : Vocabulary) (s : String) : List Word :=
  if startsWith "--" s then
    let (name, attached?) := splitEquals s
    (known.filter fun (n, _) => startsWith name n).map fun (_, flag) => .option flag true attached?
  else
    let short := String.ofList (s.toList.take 2)
    known.filterMap fun (n, flag) =>
      if n = short then some (.option flag false (some (String.ofList (s.toList.drop 2))))
      else if startsWith s n then some (.option flag (startsWith "--" n) none)
      else none

/-- Whether the characters are those of a negative number, behind which a line may end. -/
def isNegativeNumber (s : String) : Bool :=
  let isDigit (c : Char) := (Numeral.decimalDigit? c).isSome
  let isDigits (cs : List Char) := !cs.isEmpty && cs.all isDigit
  let number (cs : List Char) :=
    isDigits cs ||
      match cs.dropWhile isDigit with
      | '.' :: fraction => isDigits fraction
      | _ => false
  match s.toList with
  | '-' :: rest => number rest || (rest.getLast? == some '\n' && number rest.dropLast)
  | _ => false

/-- What a word is that stands before any separator; none if it may be more than one option. -/
def classifyWord? (known : Vocabulary) (s : String) : Option Word :=
  if ¬startsWith "-" s then some (.operand s)
  else
    match known.lookup s with
    | some flag => some (.option flag (startsWith "--" s) none)
    | none =>
      if s = "-" then some (.operand s)
      else
        let (name, attached?) := splitEquals s
        match attached?.bind fun _ => known.lookup name with
        | some flag => some (.option flag (startsWith "--" name) attached?)
        | none =>
          match candidates known s with
          | [w] => some w
          | _ :: _ :: _ => none
          | [] =>
            if isNegativeNumber s ∨ ' ' ∈ s.toList then some (.operand s)
            else some (.unknownOption s)

/-- The words of a command line; none if it is not clear which option is meant somewhere. -/
def classify (known : Vocabulary) : List String → Option (List Word)
  | [] => some []
  | s :: rest =>
    if s = "--" then some (.separator :: rest.map .operand)
    else do
      let w ← classifyWord? known s
      return w :: (← classify known rest)

/-- The options of one letter behind the same hyphen; none if there is no such option for one of the
letters. -/
def readCluster (known : Vocabulary) (letters : List Char) : Option (List Flag) :=
  letters.mapM fun c => known.lookup (String.ofList ['-', c])

end SignalBinding.CommandLine
