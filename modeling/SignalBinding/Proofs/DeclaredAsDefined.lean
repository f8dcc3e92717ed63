import SignalBinding.Proofs.SignalFate
import SignalBinding.Proofs.TypeCompleteness

/-!
# Helpers are declared as they are defined

A connect helper is declared in one template and defined in another, and the signal that it connects
to is declared in a third. The three agree word for word on what they share, whatever the names and
types of a signal are.

## Main definitions

- `Subject.memberSignature`, `Subject.freeSignature`: what declaration and definition share
-/

namespace SignalBinding

namespace TemplateSet

namespace Subject

/-- The name of a member helper, and its parameter list. -/
def memberSignature (s : Subject) : String :=
  s.name.connect.cpp ++ "(::rust::Fn<void(" ++ s.parameters.closureText ++
    ")> func, ::Qt::ConnectionType type)"

/-- A free helper from its return type to its parameter list. -/
def freeSignature (s : Subject) : String :=
  "::QMetaObject::Connection\n" ++ s.objectIdent ++ "_" ++ s.name.connect.cpp ++ "(" ++
    s.self.type ++ "& " ++ s.self.ident ++ ", ::rust::Fn<void(" ++ s.parameters.closureText ++
    ")> func, ::Qt::ConnectionType type)"

end Subject

variable (s : Subject)

theorem builtinText_signalDeclaration :
    builtinText .signalDeclaration s =
      "Q_SIGNAL void " ++ s.name.cpp ++ "(" ++ s.parameters.signalText ++ ");" := by
  simp only [builtinText, builtinPieces, Template.concat_singleton, Template.concat_cons_cons,
    String.append_assoc]

theorem builtinText_memberHeader :
    builtinText .memberHeader s = "::QMetaObject::Connection " ++ s.memberSignature ++ ";" := by
  have hsplit : ")> func, ::Qt::ConnectionType type);" =
      ")> func, ::Qt::ConnectionType type)" ++ ";" := rfl
  unfold Subject.memberSignature
  simp only [builtinText, builtinPieces, Template.concat_singleton, Template.concat_cons_cons,
    String.append_assoc, hsplit]

theorem exists_builtinText_memberSource :
    ∃ body, builtinText .memberSource s =
      "::QMetaObject::Connection\n" ++ s.objectIdent ++ "::" ++ s.memberSignature ++ "\n\x7b\n" ++
        "    return ::QObject::connect(this,\n        &" ++ s.objectIdent ++ "::" ++ s.name.cpp ++
        ",\n        this,\n        [&, func = ::std::move(func)](" ++ s.parameters.signalText ++
        ") \x7b\n" ++ body := by
  have hsplit : ")> func, ::Qt::ConnectionType type)\n\x7b\n" =
      ")> func, ::Qt::ConnectionType type)" ++ "\n\x7b\n" := rfl
  have hlambda : ") \x7b\n            const ::rust::cxxqtlib1::MaybeLockGuard<" =
      ") \x7b\n" ++ "            const ::rust::cxxqtlib1::MaybeLockGuard<" := rfl
  unfold Subject.memberSignature
  simp only [builtinText, builtinPieces, Template.concat_singleton, Template.concat_cons_cons,
    String.append_assoc, hsplit, hlambda]
  exact ⟨_, rfl⟩

theorem builtinText_freeHeader : builtinText .freeHeader s = s.freeSignature ++ ";\n" := by
  have hsplit : ")> func, ::Qt::ConnectionType type);\n" =
      ")> func, ::Qt::ConnectionType type)" ++ ";\n" := rfl
  unfold Subject.freeSignature
  simp only [builtinText, builtinPieces, Template.concat_singleton, Template.concat_cons_cons,
    String.append_assoc, hsplit]

theorem exists_builtinText_freeSource :
    ∃ body, builtinText .freeSource s = s.freeSignature ++ "\n\x7b\n" ++ body := by
  have hsplit :
      ")> func, ::Qt::ConnectionType type)\n\x7b\n    return ::QObject::connect(\n        &" =
        ")> func, ::Qt::ConnectionType type)" ++
          ("\n\x7b\n" ++ "    return ::QObject::connect(\n        &") := rfl
  unfold Subject.freeSignature
  simp only [builtinText, builtinPieces, Template.concat_singleton, Template.concat_cons_cons,
    String.append_assoc, hsplit]
  exact ⟨_, rfl⟩

end TemplateSet

open Parameter
open TypeExpr

namespace Signal

variable {table : NameTable} {owner : String} {s : Signal}

theorem eq_memberPieces {block : Block}
    (h : (s.member .builtin table owner).result = .ok (.ok block)) :
    block = s.memberPieces TemplateSet.builtinTexts table owner := by
  rw [result_member (TemplateSet.builtin_gives _)] at h
  exact eq_of_outcome (Except.ok.inj h)

theorem eq_freePiece {f : Fragment} (h : (s.free .builtin table).result = .ok (.ok f)) :
    f = s.freePiece TemplateSet.builtinTexts table := by
  rw [result_free (TemplateSet.builtin_gives _)] at h
  exact eq_of_outcome (Except.ok.inj h)

/--
A free helper's definition starts with its declaration, but for the semicolon. So does a member
helper's, but for the class before its name; and the signal that the helper connects to, unless a
base class has it, is declared with the parameters that the connected function has.
-/
theorem declared_as_defined (table : NameTable) (s : Signal) :
    (∀ f, (s.free .builtin table).result = .ok (.ok f) →
      ∃ signature body, f = .pair (signature ++ ";\n") (signature ++ "\n\x7b\n" ++ body)) ∧
    ∀ owner block, (s.member .builtin table owner).result = .ok (.ok block) →
      ∃ signature formals body,
        block =
          (if s.inherit then []
            else [.declaration ("Q_SIGNAL void " ++ s.name.cpp ++ "(" ++ formals ++ ");")]) ++
          [.pair ("::QMetaObject::Connection " ++ signature ++ ";")
            ("::QMetaObject::Connection\n" ++ owner ++ "::" ++ signature ++ "\n\x7b\n" ++
              "    return ::QObject::connect(this,\n        &" ++ owner ++ "::" ++ s.name.cpp ++
              ",\n        this,\n        [&, func = ::std::move(func)](" ++ formals ++
              ") \x7b\n" ++ body)] := by
  constructor
  · intro f hf
    obtain ⟨body, hbody⟩ := TemplateSet.exists_builtinText_freeSource (s.freeSubject table)
    refine ⟨(s.freeSubject table).freeSignature, body, ?_⟩
    rw [eq_freePiece hf, freePiece_builtinTexts, hbody, TemplateSet.builtinText_freeHeader]
  · intro owner block hblock
    obtain ⟨body, hbody⟩ :=
      TemplateSet.exists_builtinText_memberSource (s.memberSubject table owner)
    refine ⟨(s.memberSubject table owner).memberSignature,
      (s.memberSubject table owner).parameters.signalText, body, ?_⟩
    rw [eq_memberPieces hblock, memberPieces_builtinTexts, hbody,
      TemplateSet.builtinText_memberHeader, TemplateSet.builtinText_signalDeclaration]
    rfl

/-- The signal of a button, once as a free signal and once as a member of another class. -/
theorem declared_as_defined_clicked :
    let s : Signal :=
      { owner := "QPushButton"
        name := ⟨"clicked", "clicked"⟩
        parameters := [⟨"checked", "bool"⟩] }
    ∃ f block, (s.free .builtin {}).result = .ok (.ok f) ∧
      (s.member .builtin {} "MyButton").result = .ok (.ok block) ∧
      (∃ signature body, f = .pair (signature ++ ";\n") (signature ++ "\n\x7b\n" ++ body)) ∧
      ∃ signature formals body,
        block =
          [.declaration ("Q_SIGNAL void " ++ "clicked" ++ "(" ++ formals ++ ");"),
            .pair ("::QMetaObject::Connection " ++ signature ++ ";")
              ("::QMetaObject::Connection\n" ++ "MyButton" ++ "::" ++ signature ++ "\n\x7b\n" ++
                "    return ::QObject::connect(this,\n        &" ++ "MyButton" ++ "::" ++
                "clicked" ++ ",\n        this,\n        [&, func = ::std::move(func)](" ++
                formals ++ ") \x7b\n" ++ body)] := by
  intro s
  have hlexeme : lexeme? 'b' ['o', 'o', 'l'] = some (.ident "bool", []) := rfl
  have htokens : tokens "bool".toList = .ok [.ident "bool"] := by
    change tokens ['b', 'o', 'o', 'l'] = _
    rw [tokens_cons rfl hlexeme, tokens_nil]
    rfl
  have hbool : spell {} "bool" = .ok "bool" :=
    spell_eq_ok_iff.2 ⟨_, htokens, .of_name rfl (.builtin (b := .bool) rfl)⟩
  have hnone : firstRefusal? {} s.parameters = none :=
    firstRefusal?_eq_none_iff.2 (by simpa [s] using ⟨_, hbool⟩)
  have hfree : (s.free .builtin {}).result =
      .ok (.ok (s.freePiece TemplateSet.builtinTexts {})) := by
    rw [result_free (TemplateSet.builtin_gives _), outcome, hnone]
  have hmember : (s.member .builtin {} "MyButton").result =
      .ok (.ok (s.memberPieces TemplateSet.builtinTexts {} "MyButton")) := by
    rw [result_member (TemplateSet.builtin_gives _), outcome, hnone]
  obtain ⟨hdeclared, hdefined⟩ := declared_as_defined {} s
  exact ⟨_, _, hfree, hmember, hdeclared _ hfree, hdefined "MyButton" _ hmember⟩

end Signal

end SignalBinding
