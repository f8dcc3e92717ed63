import SignalBinding.Fragment.Basic
import SignalBinding.Log.Record
import SignalBinding.Template.Builtin

/-!
# Generating one signal

The fragments of a signal, as a member of the class that declares it or as a free function for an
object that exists already. A signal with a type that has no counterpart in C++ has no fragments at
all; that is found out before any template is used.

## Main definitions

- `Signal.member`: the fragments of a signal on a generated object
- `Signal.free`: the fragment of a signal on an existing object
- `memberBlock`: the fragments of several signals on one generated object
-/

namespace SignalBinding

open TypeExpr (Unresolved)
open TemplateSet (Subject)

namespace Generation

/-- Reports about single signals of the object `owner`. -/
def signalReporter (owner : String) : Reporter where
  name? := some "generator.signals"
  owner? := some owner

/-- Says that a member signal of the class `owner` is being written. -/
def memberRecord (owner : String) (s : Signal) : Record :=
  (signalReporter owner).record .debug
    ("Generating signal " ++ s.name.cpp ++ " (inherit=" ++
      (if s.inherit then "True" else "False") ++ ")")

/-- Says that a free signal on an object of the type `owner` is being written. -/
def freeRecord (owner : String) (s : Signal) : Record :=
  (signalReporter owner).record .debug
    ("Generating free signal " ++ s.name.cpp ++ " with " ++
      toString s.parameters.length ++ " parameter(s)")

/-- A declaration with its definition, from the templates of the two. -/
def pair (templates : TemplateSet) (header source : TemplateName) (subject : Subject) :
    Except TemplateError Fragment := do
  let (h, subject) ← templates.render header subject
  let (s, _) ← templates.render source subject
  return .pair h s

/--
The fragments of a member signal: its declaration, unless a base class has it, and then its connect
helper. All of its templates are given the same parameter lists.
-/
def memberFragments (templates : TemplateSet) (subject : Subject) (inherit : Bool) :
    Except TemplateError Block := do
  if inherit then
    return [← pair templates .memberHeader .memberSource subject]
  else
    let (declaration, subject) ← templates.render .signalDeclaration subject
    return [.declaration declaration, ← pair templates .memberHeader .memberSource subject]

end Generation

open Generation

namespace Signal

/-- The fragments of a signal on a generated object of the class `owner`. -/
def member (templates : TemplateSet) (table : NameTable) (owner : String) (s : Signal) :
    Journaled TemplateError (Except Unresolved Block) :=
  match Parameters.ofParameters table (.member owner) s.parameters with
  | .error e => return .error e
  | .ok parameters => do
    Journaled.tell (memberRecord owner s)
    let subject := { objectIdent := owner, name := s.name, parameters, self := .member owner }
    return .ok (← memberFragments templates subject s.inherit)

/-- The fragment of a signal on an object that exists already. -/
def free (templates : TemplateSet) (table : NameTable) (s : Signal) :
    Journaled TemplateError (Except Unresolved Fragment) :=
  let self := SelfValue.resolve s.owner table
  match Parameters.ofParameters table self s.parameters with
  | .error e => return .error e
  | .ok parameters => do
    Journaled.tell (freeRecord self.type s)
    let subject := { objectIdent := s.owner, name := s.name, parameters, self }
    return .ok (← pair templates .freeHeader .freeSource subject)

end Signal

/--
The fragments of several signals of the class `owner`, in declared order; nothing but the error if
one of them has a type without a counterpart in C++.
-/
def memberBlock (templates : TemplateSet) (table : NameTable) (owner : String) :
    List Signal → Journaled TemplateError (Except Unresolved Block)
  | [] => return .ok []
  | s :: rest => do
    match ← s.member templates table owner with
    | .error e => return .error e
    | .ok fragments =>
      match ← memberBlock templates table owner rest with
      | .error e => return .error e
      | .ok block => return .ok (fragments ++ block)

end SignalBinding
