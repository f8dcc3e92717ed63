import SignalBinding.Proofs.FailureIsolation
import SignalBinding.Proofs.NestedTypes

/-!
# Generated texts are nested

Brackets come into generated C++ from the spelling of types, from the parameter lists and from the
built-in templates, and from nowhere else as long as names have none. Each of these closes what it
opens, so all fragments are nested, and so are the two files that they make up.

## Main definitions

- `Signal.IsPlain`, `Bridge.IsPlain`: names without brackets, whatever the types are
- `Fragment.IsNested`: a fragment of which both texts are nested
-/

namespace SignalBinding

open TypeExpr

variable {table : NameTable}

/-! ### Templates -/

theorem SelfValue.nested_ident (self : SelfValue) : NestedText self.ident := by
  cases self with
  | member => exact (by decide : NestedText "*this")
  | foreign => exact (by decide : NestedText "self")

namespace TemplateSet

/-- What a signal gives to its templates is nested. -/
structure Subject.IsNested (s : Subject) : Prop where
  objectIdent : NestedText s.objectIdent
  name : NestedText s.name.cpp
  selfType : NestedText s.self.type
  signalText : NestedText s.parameters.signalText
  closureText : NestedText s.parameters.closureText
  valuesText : NestedText s.parameters.valuesText

theorem Subject.IsNested.builtinText {s : Subject} (h : s.IsNested) (name : TemplateName) :
    NestedText (builtinText name s) := by
  have hconnect : NestedText s.name.connect.cpp := h.name.append (by decide)
  rw [NestedText, nested_iff, TemplateSet.builtinText]
  -- What a signal gives is passed over, and the stack runs through the fixed texts around it.
  cases name
  all_goals
    simp only [builtinPieces, Template.concat, List.foldr_cons, List.foldr_nil,
      String.toList_append, String.reduceToList, unclosed_append, h.objectIdent.unclosed_eq,
      h.name.unclosed_eq, hconnect.unclosed_eq, h.selfType.unclosed_eq,
      s.self.nested_ident.unclosed_eq, h.signalText.unclosed_eq, h.closureText.unclosed_eq,
      h.valuesText.unclosed_eq]
    rfl

end TemplateSet

/-! ### Fragments and files -/

/-- All texts of the fragment are nested. -/
structure Fragment.IsNested (f : Fragment) : Prop where
  header : NestedText f.header
  source : ∀ c, f.source? = some c → NestedText c

theorem Fragment.nested_declaration {h : String} (hh : NestedText h) : (declaration h).IsNested :=
  ⟨hh, fun _ hc => by cases hc⟩

theorem Fragment.nested_pair {h c : String} (hh : NestedText h) (hc : NestedText c) :
    (pair h c).IsNested :=
  ⟨hh, fun _ heq => Option.some.inj heq ▸ hc⟩

theorem Fragment.nested_trimLineEnds {s : String} (h : NestedText s) :
    NestedText (trimLineEnds s) := by
  have hline (c : Char) (hc : c == '\n') : IsPlain c := by
    obtain rfl := beq_iff_eq.1 hc
    decide
  rw [NestedText, trimLineEnds, String.toList_ofList]
  exact nested_trimRight hline h

theorem Fragment.nested_headerText {fs : List Fragment} (h : ∀ f ∈ fs, f.IsNested) :
    NestedText (headerText fs) := by
  induction fs with
  | nil => exact .nil
  | cons f fs ih =>
    obtain ⟨hf, hfs⟩ := List.forall_mem_cons.1 h
    exact ((nested_trimLineEnds hf.header).append (by decide)).append (ih hfs)

theorem Fragment.nested_sourceText {fs : List Fragment} (h : ∀ f ∈ fs, f.IsNested) :
    NestedText (sourceText fs) := by
  have hdefinitions : ∀ d ∈ definitions fs, NestedText d := by
    intro d hd
    obtain ⟨c, hc, rfl⟩ := List.mem_map.1 hd
    obtain ⟨f, hf, hsource⟩ := List.mem_filterMap.1 hc
    exact nested_trimLineEnds ((h f hf).source c hsource)
  have hblank : NestedText "\n\n" := by decide
  unfold sourceText
  split
  · exact .nil
  · exact (hblank.intercalate hdefinitions).append (by decide)

theorem Report.nested {r : Report} (h : ∀ w ∈ r.owners, ∀ f ∈ w.block, f.IsNested) :
    NestedText r.header ∧ NestedText r.source := by
  have hall : ∀ f ∈ r.blocks.flatten, f.IsNested := by
    intro f hf
    obtain ⟨block, hblock, hf⟩ := List.mem_flatten.1 hf
    obtain ⟨w, hw, rfl⟩ := List.mem_map.1 hblock
    exact h w hw f hf
  exact ⟨Fragment.nested_headerText hall, Fragment.nested_sourceText hall⟩

/-! ### Signals -/

open TemplateSet (builtinText builtinTexts)

theorem Parameter.nested_cppType (htable : table.IsPlain) (p : Parameter) :
    NestedText (p.cppType table) := by
  unfold cppType
  cases h : spell table p.type with
  | error e => exact .nil
  | ok c => exact nested_spell htable h

namespace Signal

/-- No name of the signal or of its parameters has a bracket, whatever their types are. -/
structure IsPlain (s : Signal) : Prop where
  name : PlainText s.name.cpp
  parameters : ∀ p ∈ s.parameters, PlainText p.ident

variable {s : Signal} {owner : String}

theorem IsPlain.nested_formals (hs : s.IsPlain) (htable : table.IsPlain) :
    ∀ f ∈ s.parameters.map (fun p => p.cppType table ++ " " ++ p.ident), NestedText f := by
  intro f hf
  obtain ⟨p, hp, rfl⟩ := List.mem_map.1 hf
  have htype : NestedText (p.cppType table ++ " ") :=
    (Parameter.nested_cppType htable p).append (by decide)
  exact htype.append (hs.parameters p hp).nested

theorem IsPlain.nested_forwarded (hs : s.IsPlain) :
    ∀ v ∈ s.parameters.map Parameters.forwarded, NestedText v := by
  intro v hv
  obtain ⟨p, hp, rfl⟩ := List.mem_map.1 hv
  exact (hs.parameters p hp).nested.between (l := "::std::move(") (r := ")") rfl rfl

/-- The parameter lists of a signal are nested if the type of its object is. -/
theorem IsPlain.nested_spelled (hs : s.IsPlain) (htable : table.IsPlain) {self : SelfValue}
    (hself : NestedText self.type) :
    let ps := Parameters.spelled table self s.parameters
    NestedText ps.signalText ∧ NestedText ps.closureText ∧ NestedText ps.valuesText := by
  have hcomma : NestedText ", " := by decide
  have hobject : NestedText (self.type ++ "&") := hself.append (by decide)
  have hformals := hs.nested_formals htable
  exact ⟨hcomma.intercalate hformals,
    hcomma.intercalate (List.forall_mem_cons.2 ⟨hobject, hformals⟩),
    hcomma.intercalate (List.forall_mem_cons.2 ⟨self.nested_ident, hs.nested_forwarded⟩)⟩

theorem IsPlain.nested_memberSubject (hs : s.IsPlain) (htable : table.IsPlain)
    (howner : PlainText owner) : (s.memberSubject table owner).IsNested := by
  have hself : NestedText (SelfValue.member owner).type := howner.nested
  obtain ⟨hsignal, hclosure, hvalues⟩ := hs.nested_spelled htable hself
  exact ⟨howner.nested, hs.name.nested, howner.nested, hsignal, hclosure, hvalues⟩

theorem IsPlain.nested_freeSubject (hs : s.IsPlain) (htable : table.IsPlain)
    (howner : PlainText s.owner) : (s.freeSubject table).IsNested := by
  have hself : NestedText (SelfValue.resolve s.owner table).type :=
    (NameTable.plain_cppName htable howner).nested
  obtain ⟨hsignal, hclosure, hvalues⟩ := hs.nested_spelled htable hself
  exact ⟨howner.nested, hs.name.nested, hself, hsignal, hclosure, hvalues⟩

theorem IsPlain.nested_memberPieces (hs : s.IsPlain) (htable : table.IsPlain)
    (howner : PlainText owner) : ∀ f ∈ s.memberPieces builtinTexts table owner, f.IsNested := by
  have hsubject := hs.nested_memberSubject htable howner
  have hdeclaration := Fragment.nested_declaration (hsubject.builtinText .signalDeclaration)
  have hpair := Fragment.nested_pair (hsubject.builtinText .memberHeader)
    (hsubject.builtinText .memberSource)
  rw [memberPieces_builtinTexts]
  cases s.inherit with
  | true => simpa using hpair
  | false => simpa using ⟨hdeclaration, hpair⟩

theorem IsPlain.nested_freePiece (hs : s.IsPlain) (htable : table.IsPlain)
    (howner : PlainText s.owner) : (s.freePiece builtinTexts table).IsNested := by
  have hsubject := hs.nested_freeSubject htable howner
  exact Fragment.nested_pair (hsubject.builtinText _) (hsubject.builtinText _)

end Signal

/-! ### Bridges -/

namespace Bridge

/-- No name in the bridge has a bracket, whatever the types of its signals are. -/
structure IsPlain (b : Bridge) : Prop where
  classes : ∀ o ∈ b.objects, PlainText o.className
  members : ∀ o ∈ b.objects, ∀ s ∈ o.signals, s.IsPlain
  targets : ∀ s ∈ b.freeSignals, PlainText s.owner
  freeSignals : ∀ s ∈ b.freeSignals, s.IsPlain

theorem IsPlain.nested_present {b : Bridge} (hb : b.IsPlain) (htable : table.IsPlain) :
    ∀ w ∈ b.present builtinTexts table, ∀ f ∈ w.block, f.IsNested := by
  intro w hw f hf
  obtain hw | hw := List.mem_append.1 hw
  · obtain ⟨o, ho, hw⟩ := List.mem_flatMap.1 hw
    split at hw
    · cases hw
    · obtain rfl := List.mem_singleton.1 hw
      obtain ⟨s, hs, hf⟩ := List.mem_flatMap.1 hf
      have hmember := hb.members o ho s (List.mem_filter.1 hs).1
      exact hmember.nested_memberPieces htable (hb.classes o ho) f hf
  · obtain ⟨s, hs, rfl⟩ := List.mem_map.1 hw
    obtain rfl := List.mem_singleton.1 hf
    have hmem := (List.mem_filter.1 hs).1
    exact (hb.freeSignals s hmem).nested_freePiece htable (hb.targets s hmem)

end Bridge

/--
Names without brackets give nested fragments, whatever the parameter types are, and nested
fragments give nested files.
-/
theorem generated_nested (table : NameTable) (htable : table.IsPlain) :
    (∀ (s : Signal) (owner : String), s.IsPlain → PlainText owner → ¬ s.Failing table →
      ∃ block, (s.member .builtin table owner).result = .ok (.ok block) ∧
        ∀ f ∈ block, f.IsNested) ∧
    (∀ s : Signal, s.IsPlain → PlainText s.owner → ¬ s.Failing table →
      ∃ f, (s.free .builtin table).result = .ok (.ok f) ∧ f.IsNested) ∧
    (∀ r : Report, (∀ w ∈ r.owners, ∀ f ∈ w.block, f.IsNested) →
      NestedText r.header ∧ NestedText r.source) ∧
    ∀ (b : Bridge) (table? : Option NameTable), b.IsPlain → b.effectiveTable table? = table →
      ∃ r, (b.generate table?).result = .ok r ∧ (∀ w ∈ r.owners, ∀ f ∈ w.block, f.IsNested) ∧
        NestedText r.header ∧ NestedText r.source := by
  refine ⟨?_, ?_, fun r => Report.nested, ?_⟩
  · intro s owner hs howner hfine
    refine ⟨s.memberPieces builtinTexts table owner, ?_, hs.nested_memberPieces htable howner⟩
    rw [Signal.result_member (TemplateSet.builtin_gives _), Signal.outcome,
      Signal.not_failing_iff.1 hfine]
  · intro s hs howner hfine
    refine ⟨s.freePiece builtinTexts table, ?_, hs.nested_freePiece htable howner⟩
    rw [Signal.result_free (TemplateSet.builtin_gives _), Signal.outcome,
      Signal.not_failing_iff.1 hfine]
  · rintro b table? hb rfl
    have howners : ∀ w ∈ (Report.ofGroups (b.groups builtinTexts (b.effectiveTable table?))).owners,
        ∀ f ∈ w.block, f.IsNested := by
      rw [Bridge.owners_groups]
      exact hb.nested_present htable
    exact ⟨_, b.result_generate_builtin table?, howners, Report.nested howners⟩

/-- A slice of a type with a namespace, for a member signal and for a free one. -/
theorem generated_nested_slice :
    let table : NameTable := { namespaces := Glossary.empty.insert "Item" "app" }
    let moved : Signal :=
      { owner := "View", name := ⟨"moved", "moved"⟩, parameters := [⟨"items", "&[Item]"⟩] }
    let b : Bridge :=
      { table, objects := [{ ident := "Model", signals := [moved] }], freeSignals := [moved] }
    ∃ block f r, (moved.member .builtin table "Model").result = .ok (.ok block) ∧
      (∀ g ∈ block, g.IsNested) ∧ (moved.free .builtin table).result = .ok (.ok f) ∧ f.IsNested ∧
      b.generate.result = .ok r ∧ NestedText r.header ∧ NestedText r.source := by
  intro table moved b
  have htable : table.IsPlain := ⟨by decide, by decide⟩
  have hmoved : moved.IsPlain := ⟨by decide, by decide⟩
  have hb : b.IsPlain := by
    refine ⟨by decide, ?_, by decide, ?_⟩
    · simpa [b] using hmoved
    · simpa [b] using hmoved
  have hlexeme : lexeme? 'I' ['t', 'e', 'm', ']'] = some (.ident "Item", [']']) := rfl
  have htokens : tokens "&[Item]".toList = .ok [.amp, .lbracket, .ident "Item", .rbracket] := by
    change tokens ('&' :: '[' :: 'I' :: ['t', 'e', 'm', ']']) = _
    rw [tokens_cons rfl rfl, tokens_cons rfl rfl, tokens_cons rfl hlexeme, tokens_cons rfl rfl,
      tokens_nil]
    rfl
  have hitem : Names table "Item" [] (table.cppName "Item") := .user (by decide) (by decide) rfl rfl
  have hslice : ∃ c, spell table "&[Item]" = .ok c :=
    ⟨_, spell_eq_ok_iff.2 ⟨_, htokens, .slice none (.of_name rfl hitem)⟩⟩
  have hfine : ¬ moved.Failing table :=
    Signal.not_failing_iff.2 (Parameter.firstRefusal?_eq_none_iff.2 (by simpa [moved] using hslice))
  obtain ⟨hmember, hfree, -, hreport⟩ := generated_nested table htable
  obtain ⟨block, hblock, hpieces⟩ := hmember moved "Model" hmoved (by decide) hfine
  obtain ⟨f, hf, hpiece⟩ := hfree moved hmoved (by decide) hfine
  obtain ⟨r, hr, -, hheader, hsource⟩ := hreport b none hb rfl
  exact ⟨block, f, r, hblock, hpieces, hf, hpiece, hr, hheader, hsource⟩

end SignalBinding
