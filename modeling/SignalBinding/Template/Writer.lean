import SignalBinding.Parameters

/-!
# Templates as they are used

A signal is written with five templates, which a user may override. Nothing is said here about the
language that templates are written in: a template is what it does with a signal. It gives a text,
or fails; and as all templates of one signal are given the same parameter lists, it may also change
these lists for the templates that come behind it.

## Main definitions

- `TemplateName`: the five templates, and `TemplateName.fileName`
- `Subject`: what a signal gives to its templates
- `Writer`: what a template does
- `TemplateSet`: the templates by their names; `TemplateSet.render`, `TemplateSet.subjectAfter`
-/

namespace SignalBinding

/-- Why a template has no text. -/
inductive TemplateError
  /-- It uses a name without a value. -/
  | undefined
  /-- It repeats a part over a value that has no items. -/
  | notRepeatable
  /-- It is no template. -/
  | malformed
  /-- Its file is no text. -/
  | notText
  deriving DecidableEq, Repr, Inhabited

/-- The texts that make up a signal. -/
inductive TemplateName
  | signalDeclaration
  | memberHeader
  | memberSource
  | freeHeader
  | freeSource
  deriving DecidableEq, Repr, Inhabited

namespace TemplateName

def all : List TemplateName :=
  [signalDeclaration, memberHeader, memberSource, freeHeader, freeSource]

/-- The file, under a folder `signals`, in which a user may override the template. -/
def fileName : TemplateName → String
  | signalDeclaration => "signal_declaration.j2"
  | memberHeader => "member_connect_header.j2"
  | memberSource => "member_connect_source.j2"
  | freeHeader => "free_connect_header.j2"
  | freeSource => "free_connect_source.j2"

end TemplateName

namespace TemplateSet

/-- What a signal gives to its templates. -/
structure Subject where
  objectIdent : String
  name : NamePair
  parameters : Parameters
  self : SelfValue
  deriving DecidableEq, Repr, Inhabited

end TemplateSet

open TemplateSet (Subject)

/-- What a template makes of a signal: its text, and the parameter lists as it leaves them. -/
abbrev Writer : Type := Subject → Except TemplateError (String × Parameters)

/-- A template that has no text for any signal. -/
def Writer.failing (e : TemplateError) : Writer :=
  fun _ => .error e

/-- The templates that signals are written with. -/
abbrev TemplateSet : Type := TemplateName → Writer

namespace TemplateSet

/-- The text of the template `name` for a signal, and the signal for the templates behind it. -/
def render (templates : TemplateSet) (name : TemplateName) (s : Subject) :
    Except TemplateError (String × Subject) := do
  let (text, parameters) ← templates name s
  return (text, { s with parameters })

/-- The signal for the templates behind some that have been used one after the other. -/
def subjectAfter (templates : TemplateSet) :
    List TemplateName → Subject → Except TemplateError Subject
  | [], s => return s
  | name :: names, s => do
    let (_, s) ← templates.render name s
    templates.subjectAfter names s

end TemplateSet

end SignalBinding
