import SignalBinding.Template.Basic

/-!
# The templates of connect helpers

The form that each of the five templates has unless a user overrides it.

## Main definitions

- `TemplateSet.builtinForm`: the forms of this library
- `TemplateSet.builtin`: what they do with a signal
-/

namespace SignalBinding

namespace TemplateSet

/-! ### Places for names -/

def objectIdent : Node := .output (.name "qobject_ident")
def signalIdent : Node := .output (.name "signal_ident")
def connectIdent : Node := .output (.name "connect_ident")
def selfType : Node := .output (.part (.name "self_value") "ty")
def selfIdent : Node := .output (.part (.name "self_value") "ident")
def signalTypes : Node := .output (.part (.name "parameters") "types_signal")
def closureTypes : Node := .output (.part (.name "parameters") "types_closure")
def closureValues : Node := .output (.part (.name "parameters") "values_closure")

/-! ### The built-in forms -/

def signalDeclaration : Template :=
  [.text "Q_SIGNAL void ", signalIdent, .text "(", signalTypes, .text ");"]

def memberHeader : Template :=
  [.text "::QMetaObject::Connection ", connectIdent, .text "(::rust::Fn<void(", closureTypes,
    .text ")> func, ::Qt::ConnectionType type);"]

def memberSource : Template :=
  [.text "::QMetaObject::Connection\n", objectIdent, .text "::", connectIdent,
    .text "(::rust::Fn<void(", closureTypes,
    .text ")> func, ::Qt::ConnectionType type)\n\x7b\n",
    .text "    return ::QObject::connect(this,\n        &",
    objectIdent, .text "::", signalIdent,
    .text ",\n        this,\n        [&, func = ::std::move(func)](", signalTypes,
    .text ") \x7b\n            const ::rust::cxxqtlib1::MaybeLockGuard<", objectIdent,
    .text "> guard(", selfIdent, .text ");\n            func(", closureValues,
    .text ");\n        \x7d,\n        type);\n\x7d\n"]

def freeHeader : Template :=
  [.text "::QMetaObject::Connection\n", objectIdent, .text "_", connectIdent, .text "(", selfType,
    .text "& ", selfIdent, .text ", ::rust::Fn<void(", closureTypes,
    .text ")> func, ::Qt::ConnectionType type);\n"]

def freeSource : Template :=
  [.text "::QMetaObject::Connection\n", objectIdent, .text "_", connectIdent, .text "(", selfType,
    .text "& ", selfIdent, .text ", ::rust::Fn<void(", closureTypes,
    .text ")> func, ::Qt::ConnectionType type)\n\x7b\n    return ::QObject::connect(\n        &",
    selfIdent, .text ",\n        &", selfType, .text "::", signalIdent, .text ",\n        &",
    selfIdent, .text ",\n        [&, func = ::std::move(func)](", signalTypes,
    .text ") \x7b\n            const ::rust::cxxqtlib1::MaybeLockGuard<", selfType,
    .text "> guard(", selfIdent, .text ");\n            func(", closureValues,
    .text ");\n        \x7d,\n        type);\n\x7d\n"]

/-- The built-in form of each template. -/
def builtinForm : TemplateName → Template
  | .signalDeclaration => signalDeclaration
  | .memberHeader => memberHeader
  | .memberSource => memberSource
  | .freeHeader => freeHeader
  | .freeSource => freeSource

def builtin : TemplateSet := fun name => (builtinForm name).write

end TemplateSet

end SignalBinding
