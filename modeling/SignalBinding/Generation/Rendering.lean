import SignalBinding.Generation.Report

/-!
# Renderings

The templates that a bridge is written with, in the order in which they are used.

## Main definitions

- `Rendering`: a use of a template, and `TemplateSet.write`
- `Bridge.renderings`: each use of a template, with what is written
- `usedBefore`: the templates used up to the first one that fails
-/

namespace SignalBinding

open TemplateSet (Subject)

/-- A use of a template for a signal. -/
structure Rendering where
  /-- The templates used for this signal before. -/
  before : List TemplateName
  name : TemplateName
  /-- The signal, as it is before any template is used. -/
  subject : Subject
  deriving DecidableEq, Repr, Inhabited

/-- The text of a template that is used behind others. -/
def TemplateSet.write (templates : TemplateSet) (ρ : Rendering) : Except TemplateError String := do
  let s ← templates.subjectAfter ρ.before ρ.subject
  let (text, _) ← templates.render ρ.name s
  return text

namespace Generation

/-- The uses of templates for a signal, one after the other, behind those of `before`. -/
def inTurn (subject : Subject) (before : List TemplateName) : List TemplateName → List Rendering
  | [] => []
  | name :: names => { before, name, subject } :: inTurn subject (before ++ [name]) names

def memberRenderings (table : NameTable) (owner : String) (s : Signal) : List Rendering :=
  match Parameters.ofParameters table (.member owner) s.parameters with
  | .error _ => []
  | .ok parameters =>
    let subject := { objectIdent := owner, name := s.name, parameters, self := .member owner }
    inTurn subject [] <|
      if s.inherit then [.memberHeader, .memberSource]
      else [.signalDeclaration, .memberHeader, .memberSource]

def freeRenderings (table : NameTable) (s : Signal) : List Rendering :=
  let self := SelfValue.resolve s.owner table
  match Parameters.ofParameters table self s.parameters with
  | .error _ => []
  | .ok parameters =>
    let subject := { objectIdent := s.owner, name := s.name, parameters, self }
    inTurn subject [] [.freeHeader, .freeSource]

end Generation

/-- The uses of templates for a bridge, in order. -/
def Bridge.renderings (b : Bridge) (table? : Option NameTable) : List Rendering :=
  let table := b.effectiveTable table?
  b.objects.flatMap (fun o => o.signals.flatMap (Generation.memberRenderings table o.className)) ++
    b.freeSignals.flatMap (Generation.freeRenderings table)

/-- The templates used before the first use that fails. -/
def usedBefore (templates : TemplateSet) (rs : List Rendering) : List TemplateName :=
  (rs.takeWhile fun ρ => (templates.write ρ).isOk).map Rendering.name

end SignalBinding
