/-!
# YAML tokens

The marks, names and scalars that a YAML text is made of. Indentation shows as start and end tokens
of block collections, and every key has a token in front of it.
-/

namespace SignalBinding.Yaml

/-- A word of a YAML text. -/
inductive Token
  /-- The directive for the version of YAML, with the major version. -/
  | version (major : Nat)
  /-- The directive that gives a tag handle its beginning. -/
  | handle (name start : String)
  | otherDirective
  | documentStart
  | documentEnd
  | blockSequenceStart
  | blockMappingStart
  | blockEnd
  | flowSequenceStart
  | flowSequenceEnd
  | flowMappingStart
  | flowMappingEnd
  | flowEntry
  | blockEntry
  | key
  | value
  | alias (name : String)
  | anchor (name : String)
  /-- A tag behind a handle, or one without. -/
  | tag (handle? : Option String) (suffix : String)
  | scalar (text : String) (plain : Bool)
  deriving DecidableEq, Repr, Inhabited

end SignalBinding.Yaml
