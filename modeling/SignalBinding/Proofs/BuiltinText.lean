import SignalBinding.Template.Builtin

/-!
# The texts of the built-in templates

The built-in templates have no choices and no repetitions, and use only names that every signal
gives a value to. So they never fail, leave the parameter lists as they are, and their texts can be
read off them.

## Main definitions

- `TemplateSet.builtinText`: the text of each built-in template
-/

namespace SignalBinding

namespace TemplateSet

/-- What the built-in templates put together for a signal. -/
def builtinPieces (s : Subject) : TemplateName → List String
  | .signalDeclaration =>
    ["Q_SIGNAL void ", s.name.cpp, "(", s.parameters.signalText, ");"]
  | .memberHeader =>
    ["::QMetaObject::Connection ", s.name.connect.cpp, "(::rust::Fn<void(",
      s.parameters.closureText, ")> func, ::Qt::ConnectionType type);"]
  | .memberSource =>
    ["::QMetaObject::Connection\n", s.objectIdent, "::", s.name.connect.cpp, "(::rust::Fn<void(",
      s.parameters.closureText, ")> func, ::Qt::ConnectionType type)\n\x7b\n",
      "    return ::QObject::connect(this,\n        &", s.objectIdent, "::", s.name.cpp,
      ",\n        this,\n        [&, func = ::std::move(func)](", s.parameters.signalText,
      ") \x7b\n            const ::rust::cxxqtlib1::MaybeLockGuard<", s.objectIdent, "> guard(",
      s.self.ident, ");\n            func(", s.parameters.valuesText,
      ");\n        \x7d,\n        type);\n\x7d\n"]
  | .freeHeader =>
    ["::QMetaObject::Connection\n", s.objectIdent, "_", s.name.connect.cpp, "(", s.self.type, "& ",
      s.self.ident, ", ::rust::Fn<void(", s.parameters.closureText,
      ")> func, ::Qt::ConnectionType type);\n"]
  | .freeSource =>
    ["::QMetaObject::Connection\n", s.objectIdent, "_", s.name.connect.cpp, "(", s.self.type, "& ",
      s.self.ident, ", ::rust::Fn<void(", s.parameters.closureText,
      ")> func, ::Qt::ConnectionType type)\n\x7b\n    return ::QObject::connect(\n        &",
      s.self.ident, ",\n        &", s.self.type, "::", s.name.cpp, ",\n        &", s.self.ident,
      ",\n        [&, func = ::std::move(func)](", s.parameters.signalText,
      ") \x7b\n            const ::rust::cxxqtlib1::MaybeLockGuard<", s.self.type, "> guard(",
      s.self.ident, ");\n            func(", s.parameters.valuesText,
      ");\n        \x7d,\n        type);\n\x7d\n"]

/-- The text of a built-in template. -/
def builtinText (name : TemplateName) (s : Subject) : String :=
  Template.concat (builtinPieces s name)

/-- No built-in template fails, or changes what it is given. -/
theorem builtin_eq (name : TemplateName) (s : Subject) :
    builtin name s = .ok (builtinText name s, s.parameters) := by
  have hfill : (builtinForm name).map (Template.fill (Template.scopeOf s) s.parameters) =
      (builtinPieces s name).map some := by
    cases name <;> rfl
  exact Template.render_of_fill hfill

theorem render_builtin (name : TemplateName) (s : Subject) :
    builtin.render name s = .ok (builtinText name s, s) := by
  rw [render, builtin_eq]
  rfl

end TemplateSet

end SignalBinding
