import SignalBinding.Proofs.DeclaredAsDefined

/-!
# The names in a helper's lambda

A connect helper connects the signal to a lambda, which calls the closure that the helper was given.
The lambda declares names of its own next to those of the parameters, and nothing keeps a parameter
from having one of them: names are apart as long as no parameter is called as the closure or the
guard, nor, where the object is captured as well, as the object.

## Main definitions

- `Lambda`: what a lambda captures, declares and calls, and `Lambda.text`
- `Lambda.declarations`: the names it declares, with what each stands for
- `Lambda.Hygienic`: names are apart, and the call means what it should

## Main statements

- `Lambda.nodup_names_iff`: which parameters keep the names apart
- `Signal.lambda_hygienic`: the lambdas of member and free helpers
-/

namespace SignalBinding

/-! ### Words -/

/-- A letter, a digit, an underscore, or any character that is not ASCII. -/
def isWordChar (c : Char) : Bool :=
  c.isAlphanum || c == '_' || 127 < c.toNat

/-- Not empty, and of characters of words only, as all identifiers of C++ are. -/
def IsWord (s : String) : Prop :=
  s ≠ "" ∧ s.toList.all isWordChar = true
  deriving Decidable

/-- The word at the end of a text, which is what a parameter declaration declares. -/
def lastWord (s : String) : String :=
  String.ofList (s.toList.reverse.takeWhile isWordChar).reverse

theorem lastWord_append {s : String} (h : IsWord s) (before : String) :
    lastWord (before ++ " " ++ s) = s := by
  have hword : ∀ c ∈ s.toList.reverse, isWordChar c = true := by
    simpa [List.all_eq_true] using h.2
  have hblank : isWordChar ' ' = false := by decide
  simp only [lastWord, String.toList_append, List.reverse_append,
    List.takeWhile_append_of_pos hword]
  simp [hblank]

/-! ### Lambdas -/

/-- What a name in a lambda stands for. -/
inductive Binder
  | closure
  | object
  | formal (i : Nat)
  | guard
  deriving DecidableEq, Repr

/-- A lambda that guards an object and calls a closure on it. -/
structure Lambda where
  /-- The name that the closure is captured under. -/
  closure : String
  object : SelfValue
  /-- The formal parameters with their types. -/
  formals : List String
  /-- The type of what is guarded. -/
  guarded : String
  /-- The name of the guard. -/
  guard : String
  /-- What the closure is called with. -/
  values : List String

namespace Lambda

/-- The lambda as a connect helper has it. -/
def text (l : Lambda) : String :=
  "[&, " ++ l.closure ++ " = ::std::move(" ++ l.closure ++ ")](" ++
    Parameters.commaSeparated l.formals ++
    ") \x7b\n            const ::rust::cxxqtlib1::MaybeLockGuard<" ++ l.guarded ++ "> " ++
    l.guard ++ "(" ++ l.object.ident ++ ");\n            " ++ l.closure ++ "(" ++
    Parameters.commaSeparated l.values ++ ");\n        \x7d"

/-- The object, if it is captured by name. -/
def capturedObject : SelfValue → List (String × Binder)
  | .member _ => []
  | .foreign type => [((SelfValue.foreign type).ident, .object)]

/-- The names that are the same whatever the parameters are. -/
def fixedDeclarations (l : Lambda) : List (String × Binder) :=
  (l.closure, .closure) :: (l.guard, .guard) :: capturedObject l.object

/-- The names that the lambda captures or declares, with what they stand for. -/
def declarations (l : Lambda) : List (String × Binder) :=
  l.fixedDeclarations ++ l.formals.mapIdx fun i formal => (lastWord formal, .formal i)

def fixedNames (l : Lambda) : List String :=
  l.fixedDeclarations.map Prod.fst

def names (l : Lambda) : List String :=
  l.declarations.map Prod.fst

/-- All that a name stands for. -/
def meanings (l : Lambda) (name : String) : List Binder :=
  (l.declarations.filter (·.1 = name)).map Prod.snd

/--
The names are pairwise distinct, and the call hands each parameter on to the closure: the closure,
the object and the parameters are each the only thing that their name stands for.
-/
structure Hygienic (l : Lambda) (ps : List Parameter) : Prop where
  nodup_names : l.names.Nodup
  closure : l.meanings l.closure = [.closure]
  object : ∀ type, l.object = .foreign type → l.meanings l.object.ident = [.object]
  formal : ∀ i (h : i < ps.length), l.meanings ps[i].ident = [.formal i]
  values : l.values = l.object.ident :: ps.map fun p => "::std::move(" ++ p.ident ++ ")"

variable {l : Lambda} {name : String} {b : Binder} {ps : List Parameter}

/-- Where names are distinct, a name that is declared stands for one thing. -/
theorem meanings_of_nodup (h : l.names.Nodup) (hmem : (name, b) ∈ l.declarations) :
    l.meanings name = [b] := by
  unfold names at h
  unfold meanings
  generalize l.declarations = ds at h hmem
  induction ds with
  | nil => cases hmem
  | cons d ds ih =>
    rw [List.map_cons, List.nodup_cons] at h
    obtain rfl | hmem := List.mem_cons.1 hmem
    · have hrest : ds.filter (·.1 = name) = [] := by
        rw [List.filter_eq_nil_iff]
        intro d hd hname
        exact h.1 (List.mem_map.2 ⟨d, hd, of_decide_eq_true hname⟩)
      simp [hrest]
    · have hd : d.1 ≠ name := fun hd => h.1 (hd ▸ List.mem_map_of_mem hmem)
      simpa [hd] using ih h.2 hmem

/-- The lambda declares the parameters under their names. -/
def Declares (l : Lambda) (ps : List Parameter) : Prop :=
  l.formals.map lastWord = ps.map Parameter.ident

theorem names_eq (h : l.Declares ps) : l.names = l.fixedNames ++ ps.map Parameter.ident := by
  rw [← h, names, declarations, List.map_append, fixedNames]
  congr 1
  apply List.ext_getElem <;> simp

/-- The names are apart if the parameters' are, and none of these is one of the fixed names. -/
theorem nodup_names_iff (h : l.Declares ps) (hfixed : l.fixedNames.Nodup) :
    l.names.Nodup ↔
      (ps.map Parameter.ident).Nodup ∧ ∀ p ∈ ps, p.ident ∉ l.fixedNames := by
  rw [names_eq h, List.nodup_append]
  constructor
  · rintro ⟨-, hps, happart⟩
    exact ⟨hps, fun p hp hname => happart _ hname _ (List.mem_map_of_mem hp) rfl⟩
  · rintro ⟨hps, happart⟩
    refine ⟨hfixed, hps, fun a ha b hb hab => ?_⟩
    obtain ⟨p, hp, rfl⟩ := List.mem_map.1 hb
    exact happart p hp (hab ▸ ha)

theorem mem_declarations_formal (h : l.Declares ps) {i : Nat} (hi : i < ps.length) :
    (ps[i].ident, .formal i) ∈ l.declarations := by
  have hlength : l.formals.length = ps.length := by
    simpa using congrArg List.length h
  have hformal : i < l.formals.length := by omega
  have hname : lastWord l.formals[i] = ps[i].ident := by
    have hget := congrArg (·[i]?) h
    simpa [hi, hformal] using hget
  rw [declarations, List.mem_append, List.mem_mapIdx]
  exact .inr ⟨i, hformal, by rw [hname]⟩

theorem Hygienic.of_nodup (h : l.names.Nodup) (hps : l.Declares ps)
    (hvalues : l.values = l.object.ident :: ps.map Parameters.forwarded) : l.Hygienic ps where
  nodup_names := h
  closure := meanings_of_nodup h (by simp [declarations, fixedDeclarations])
  object type htype := meanings_of_nodup h (by
    simp [declarations, fixedDeclarations, capturedObject, htype])
  formal _ hi := meanings_of_nodup h (mem_declarations_formal hps hi)
  values := hvalues

end Lambda

/-! ### The lambdas of helpers -/

open TemplateSet (Subject builtinText builtinTexts)

/-- The lambda that a helper connects its signal to. -/
def TemplateSet.Subject.lambda (s : Subject) : Lambda where
  closure := "func"
  object := s.self
  formals := s.parameters.signalTypes
  guarded := s.self.type
  guard := "guard"
  values := s.parameters.forwardedValues

/-- The fixed texts around the lambda's parts, cut where its names begin and end. -/
theorem TemplateSet.Subject.lambda_text (s : Subject) :
    s.lambda.text =
      "[&, func = ::std::move(func)](" ++ s.parameters.signalText ++
        ") \x7b\n            const ::rust::cxxqtlib1::MaybeLockGuard<" ++ s.self.type ++
        "> guard(" ++ s.self.ident ++ ");\n            func(" ++ s.parameters.valuesText ++
        ");\n        \x7d" := by
  have hcapture : "[&, func = ::std::move(func)](" =
      "[&, " ++ "func" ++ " = ::std::move(" ++ "func" ++ ")](" := by decide +kernel
  have hguard : "> guard(" = "> " ++ "guard" ++ "(" := by decide +kernel
  have hcall : ");\n            func(" = ");\n            " ++ "func" ++ "(" := by decide +kernel
  unfold Lambda.text lambda Parameters.signalText Parameters.valuesText
  rw [hcapture, hguard, hcall]
  simp only [String.append_assoc]

namespace TemplateSet

variable (s : Subject)

theorem lambda_in_freeSource :
    ∃ before after, builtinText .freeSource s = before ++ s.lambda.text ++ after := by
  have hbefore : ",\n        [&, func = ::std::move(func)](" =
      ",\n        " ++ "[&, func = ::std::move(func)](" := rfl
  have hafter : ");\n        \x7d,\n        type);\n\x7d\n" =
      ");\n        \x7d" ++ ",\n        type);\n\x7d\n" := rfl
  refine ⟨"::QMetaObject::Connection\n" ++ s.objectIdent ++ "_" ++ s.name.connect.cpp ++ "(" ++
      s.self.type ++ "& " ++ s.self.ident ++ ", ::rust::Fn<void(" ++ s.parameters.closureText ++
      ")> func, ::Qt::ConnectionType type)\n\x7b\n    return ::QObject::connect(\n        &" ++
      s.self.ident ++ ",\n        &" ++ s.self.type ++ "::" ++ s.name.cpp ++ ",\n        &" ++
      s.self.ident ++ ",\n        ", ",\n        type);\n\x7d\n", ?_⟩
  simp only [builtinText, builtinPieces, Template.concat_singleton, Template.concat_cons_cons,
    Subject.lambda_text, hbefore, hafter, String.append_assoc]

theorem lambda_in_memberSource (hself : s.self.type = s.objectIdent) :
    ∃ before after, builtinText .memberSource s = before ++ s.lambda.text ++ after := by
  have hbefore : ",\n        this,\n        [&, func = ::std::move(func)](" =
      ",\n        this,\n        " ++ "[&, func = ::std::move(func)](" := rfl
  have hafter : ");\n        \x7d,\n        type);\n\x7d\n" =
      ");\n        \x7d" ++ ",\n        type);\n\x7d\n" := rfl
  refine ⟨"::QMetaObject::Connection\n" ++ s.objectIdent ++ "::" ++ s.name.connect.cpp ++
      "(::rust::Fn<void(" ++ s.parameters.closureText ++
      ")> func, ::Qt::ConnectionType type)\n\x7b\n" ++
      "    return ::QObject::connect(this,\n        &" ++ s.objectIdent ++ "::" ++ s.name.cpp ++
      ",\n        this,\n        ", ",\n        type);\n\x7d\n", ?_⟩
  simp only [builtinText, builtinPieces, Template.concat_singleton, Template.concat_cons_cons,
    Subject.lambda_text, hself, hbefore, hafter, String.append_assoc]

end TemplateSet

open TypeExpr (spell)
open Parameter

namespace Signal

variable {table : NameTable} {s : Signal} {l : Lambda}

theorem lambda_declares (subject : Subject) {self : SelfValue}
    (hword : ∀ p ∈ s.parameters, IsWord p.ident)
    (hsubject : subject.parameters = .spelled table self s.parameters) :
    subject.lambda.Declares s.parameters := by
  have hformals : subject.lambda.formals =
      s.parameters.map fun p => p.cppType table ++ " " ++ p.ident := by
    rw [Subject.lambda, hsubject]
    rfl
  rw [Lambda.Declares, hformals, List.map_map]
  exact List.map_congr_left fun p hp => lastWord_append (hword p hp) (p.cppType table)

theorem fixedNames_member (table : NameTable) (owner : String) (s : Signal) :
    (s.memberSubject table owner).lambda.fixedNames = ["func", "guard"] :=
  rfl

theorem fixedNames_free (table : NameTable) (s : Signal) :
    (s.freeSubject table).lambda.fixedNames = ["func", "guard", "self"] :=
  rfl

/-- The helper of a member signal, whatever its parameters are called. -/
theorem exists_member_lambda (haccepted : ∀ p ∈ s.parameters, ∃ c, spell table p.type = .ok c)
    (owner : String) :
    ∃ declared header before after,
      (s.member .builtin table owner).result =
        .ok (.ok (declared ++
          [.pair header (before ++ (s.memberSubject table owner).lambda.text ++ after)])) := by
  obtain ⟨before, after, htext⟩ :=
    TemplateSet.lambda_in_memberSource (s.memberSubject table owner) rfl
  have hresult : (s.member .builtin table owner).result =
      .ok (.ok (s.memberPieces builtinTexts table owner)) := by
    rw [result_member (TemplateSet.builtin_gives _), outcome, firstRefusal?_eq_none_iff.2 haccepted]
  rw [memberPieces_builtinTexts, htext] at hresult
  exact ⟨_, _, before, after, hresult⟩

/-- The helper of a free signal, whatever its parameters are called. -/
theorem exists_free_lambda (haccepted : ∀ p ∈ s.parameters, ∃ c, spell table p.type = .ok c) :
    ∃ header before after,
      (s.free .builtin table).result =
        .ok (.ok (.pair header (before ++ (s.freeSubject table).lambda.text ++ after))) := by
  obtain ⟨before, after, htext⟩ := TemplateSet.lambda_in_freeSource (s.freeSubject table)
  have hresult : (s.free .builtin table).result = .ok (.ok (s.freePiece builtinTexts table)) := by
    rw [result_free (TemplateSet.builtin_gives _), outcome, firstRefusal?_eq_none_iff.2 haccepted]
  rw [freePiece_builtinTexts, htext] at hresult
  exact ⟨_, before, after, hresult⟩

theorem nodup_names_member_iff (table : NameTable) (hword : ∀ p ∈ s.parameters, IsWord p.ident)
    (owner : String) :
    (s.memberSubject table owner).lambda.names.Nodup ↔
      (s.parameters.map Parameter.ident).Nodup ∧
        ∀ p ∈ s.parameters, p.ident ∉ ["func", "guard"] := by
  have hdeclares := lambda_declares (s.memberSubject table owner) hword rfl
  rw [Lambda.nodup_names_iff hdeclares (by rw [fixedNames_member]; decide), fixedNames_member]

/-- The object that a free helper is called for has a name in the lambda, too. -/
theorem nodup_names_free_iff (table : NameTable) (hword : ∀ p ∈ s.parameters, IsWord p.ident) :
    (s.freeSubject table).lambda.names.Nodup ↔
      (s.parameters.map Parameter.ident).Nodup ∧
        ∀ p ∈ s.parameters, p.ident ∉ ["func", "guard", "self"] := by
  have hdeclares := lambda_declares (s.freeSubject table) hword rfl
  rw [Lambda.nodup_names_iff hdeclares (by rw [fixedNames_free]; decide), fixedNames_free]

/--
The lambda of a helper is hygienic if the parameters have distinct names, none of them that of the
closure or the guard; a free helper captures its object under a name as well.
-/
theorem lambda_hygienic (table : NameTable) (s : Signal)
    (haccepted : ∀ p ∈ s.parameters, ∃ c, spell table p.type = .ok c)
    (hword : ∀ p ∈ s.parameters, IsWord p.ident)
    (hdistinct : (s.parameters.map Parameter.ident).Nodup)
    (hapart : ∀ p ∈ s.parameters, p.ident ∉ ["func", "guard"]) :
    (∀ owner,
      (∃ declared header before after,
        (s.member .builtin table owner).result =
          .ok (.ok (declared ++
            [.pair header (before ++ (s.memberSubject table owner).lambda.text ++ after)]))) ∧
        (s.memberSubject table owner).lambda.Hygienic s.parameters) ∧
      ((∀ p ∈ s.parameters, p.ident ≠ "self") →
        (∃ header before after,
          (s.free .builtin table).result =
            .ok (.ok (.pair header (before ++ (s.freeSubject table).lambda.text ++ after)))) ∧
          (s.freeSubject table).lambda.Hygienic s.parameters) := by
  constructor
  · intro owner
    have hnodup := (nodup_names_member_iff table hword owner).2 ⟨hdistinct, hapart⟩
    exact ⟨exists_member_lambda haccepted owner, .of_nodup hnodup (lambda_declares _ hword rfl) rfl⟩
  · intro hself
    have hapart' : ∀ p ∈ s.parameters, p.ident ∉ ["func", "guard", "self"] := by
      intro p hp
      have hp' := hapart p hp
      grind
    have hnodup := (nodup_names_free_iff table hword).2 ⟨hdistinct, hapart'⟩
    exact ⟨exists_free_lambda haccepted, .of_nodup hnodup (lambda_declares _ hword rfl) rfl⟩

/-- The signal of a button, with one parameter of the given name. -/
def clickedWith (ident : String) : Signal where
  owner := "QPushButton"
  name := ⟨"clicked", "clicked"⟩
  parameters := [⟨ident, "bool"⟩]

theorem accepted_clickedWith (ident : String) :
    ∀ p ∈ (clickedWith ident).parameters, ∃ c, spell {} p.type = .ok c := by
  have hlexeme : TypeExpr.lexeme? 'b' ['o', 'o', 'l'] = some (.ident "bool", []) := rfl
  have htokens : TypeExpr.tokens "bool".toList = .ok [.ident "bool"] := by
    change TypeExpr.tokens ['b', 'o', 'o', 'l'] = _
    rw [TypeExpr.tokens_cons rfl hlexeme, TypeExpr.tokens_nil]
    rfl
  have hbool : spell {} "bool" = .ok "bool" :=
    TypeExpr.spell_eq_ok_iff.2 ⟨_, htokens, .of_name rfl (.builtin (b := .bool) rfl)⟩
  exact List.forall_mem_singleton.2 ⟨_, hbool⟩

theorem lambda_hygienic_checked :
    let s := clickedWith "checked"
    (∀ p ∈ s.parameters, ∃ c, spell {} p.type = .ok c) ∧
      (∀ p ∈ s.parameters, IsWord p.ident) ∧
      (s.parameters.map Parameter.ident).Nodup ∧
      (∀ p ∈ s.parameters, p.ident ∉ ["func", "guard"]) ∧
      (∀ p ∈ s.parameters, p.ident ≠ "self") ∧
      ((∃ declared header before after,
        (s.member .builtin {} "MyButton").result =
          .ok (.ok (declared ++
            [.pair header (before ++ (s.memberSubject {} "MyButton").lambda.text ++ after)]))) ∧
        (s.memberSubject {} "MyButton").lambda.Hygienic s.parameters) ∧
      (∃ header before after,
        (s.free .builtin {}).result =
          .ok (.ok (.pair header (before ++ (s.freeSubject {}).lambda.text ++ after)))) ∧
        (s.freeSubject {}).lambda.Hygienic s.parameters := by
  intro s
  have haccepted := accepted_clickedWith "checked"
  have hword : ∀ p ∈ s.parameters, IsWord p.ident := by decide +kernel
  have hdistinct : (s.parameters.map Parameter.ident).Nodup := by decide
  have hapart : ∀ p ∈ s.parameters, p.ident ∉ ["func", "guard"] := by decide
  have hself : ∀ p ∈ s.parameters, p.ident ≠ "self" := by decide
  obtain ⟨hmember, hfree⟩ := lambda_hygienic {} s haccepted hword hdistinct hapart
  exact ⟨haccepted, hword, hdistinct, hapart, hself, hmember "MyButton", hfree hself⟩

/--
A parameter may be called `func`, `guard` or `self`. The helper is written all the same, and its
lambda has two things of this name; a member helper has no `self` of its own.
-/
theorem lambda_not_hygienic :
    (∀ ident ∈ ["func", "guard", "self"],
      let s := clickedWith ident
      (∀ p ∈ s.parameters, IsWord p.ident) ∧ (s.parameters.map Parameter.ident).Nodup ∧
        (∀ p ∈ s.parameters, ∃ c, spell {} p.type = .ok c) ∧
        (∃ header before after,
          (s.free .builtin {}).result =
            .ok (.ok (.pair header (before ++ (s.freeSubject {}).lambda.text ++ after)))) ∧
        ¬(s.freeSubject {}).lambda.names.Nodup) ∧
      ∀ ident ∈ ["func", "guard"],
        let s := clickedWith ident
        (∃ declared header before after,
          (s.member .builtin {} "MyButton").result =
            .ok (.ok (declared ++
              [.pair header (before ++ (s.memberSubject {} "MyButton").lambda.text ++ after)]))) ∧
          ¬(s.memberSubject {} "MyButton").lambda.names.Nodup := by
  have hwords : ∀ ident ∈ ["func", "guard", "self"],
      ∀ p ∈ (clickedWith ident).parameters, IsWord p.ident := by decide +kernel
  constructor
  · intro ident hident s
    have haccepted := accepted_clickedWith ident
    have hword := hwords ident hident
    refine ⟨hword, List.pairwise_singleton _ ident, haccepted, exists_free_lambda haccepted, ?_⟩
    rw [nodup_names_free_iff {} hword]
    rintro ⟨-, hapart⟩
    exact hapart ⟨ident, "bool"⟩ (List.mem_singleton_self _) hident
  · intro ident hident s
    refine ⟨exists_member_lambda (accepted_clickedWith ident) "MyButton", ?_⟩
    rw [nodup_names_member_iff {} (hwords ident (by grind))]
    rintro ⟨-, hapart⟩
    exact hapart ⟨ident, "bool"⟩ (List.mem_singleton_self _) hident

end Signal

end SignalBinding
