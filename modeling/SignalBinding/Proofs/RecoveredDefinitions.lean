import SignalBinding.Proofs.BlankLines
import SignalBinding.Proofs.FailureIsolation
import SignalBinding.Proofs.TypeCharacters

/-!
# Definitions recovered from a source file

A source file is all definitions of a report with blank lines between them. No definition has a
blank line of its own, as long as no name brings in a line end: each line of the built-in templates
has a fixed text on it, and line ends of Rust types stay behind. So the definitions are found again
at the blank lines, one for each signal that does not fail.

## Main definitions

- `Report.sources`: the definitions of a report, in the order of owners and fragments
- `NameTable.OneLine`, `Bridge.OneLine`: names without line ends, whatever the types are
- `Bridge.sources`: the definitions of all signals of a bridge

## Main statement

- `Bridge.source_recovers_definitions`
-/

namespace SignalBinding

open Text (OneLine atLineEnd splitBlankLines)
open TypeExpr
open TemplateSet (builtinText builtinTexts)

/-- No name and no namespace in the table has a line end. -/
structure NameTable.OneLine (table : NameTable) : Prop where
  renames : ∀ e ∈ table.renames.entries, Text.OneLine e.2
  namespaces : ∀ e ∈ table.namespaces.entries, Text.OneLine e.2

variable {table : NameTable}

/-! ### Types -/

theorem NameTable.OneLine.not_hasChar (h : table.OneLine) : ¬ table.HasChar '\n' := by
  rintro ⟨e, he, hx⟩
  rcases List.mem_append.1 he with he | he
  · exact h.renames e he hx
  · exact h.namespaces e he hx

theorem NameTable.OneLine.cppName (h : table.OneLine) {name : String} (hname : Text.OneLine name) :
    Text.OneLine (table.cppName name) := by
  intro hx
  rcases mem_cppName hx with hcolon | hx | hx
  · exact absurd hcolon (by decide)
  · exact hname hx
  · exact h.not_hasChar hx

/-- Line ends of a Rust type do not get into its C++ type. -/
theorem Parameter.oneLine_cppType (htable : table.OneLine) (p : Parameter) :
    OneLine (p.cppType table) := by
  unfold cppType
  cases h : spell table p.type with
  | error e => exact (by decide : OneLine "")
  | ok c =>
    intro hx
    rcases writtenWith_spell h _ hx with htype | hname
    · exact absurd htype (by decide)
    · exact htable.not_hasChar hname

/-! ### Templates -/

theorem SelfValue.oneLine_ident (self : SelfValue) : OneLine self.ident := by
  cases self with
  | member => exact (by decide : OneLine "*this")
  | foreign => exact (by decide : OneLine "self")

namespace TemplateSet

/-- What a signal gives to its templates has no line end. -/
structure Subject.OneLine (s : Subject) : Prop where
  objectIdent : Text.OneLine s.objectIdent
  name : Text.OneLine s.name.cpp
  selfType : Text.OneLine s.self.type
  signalText : Text.OneLine s.parameters.signalText
  closureText : Text.OneLine s.parameters.closureText
  valuesText : Text.OneLine s.parameters.valuesText

/-- A definition has no blank line, and one line end at its end. -/
theorem Subject.OneLine.atLineEnd_builtinText {s : Subject} (h : s.OneLine) {name : TemplateName}
    (hname : name = .memberSource ∨ name = .freeSource) :
    atLineEnd false (builtinText name s).toList = some true := by
  have hconnect : Text.OneLine s.name.connect.cpp := h.name.append (by decide)
  rw [builtinText]
  -- The only name that stands at the start of a line is that of the object, which may be empty.
  obtain rfl | rfl := hname
  all_goals
    simp only [builtinPieces, Template.concat, List.foldr_cons, List.foldr_nil,
      String.toList_append, String.reduceToList, Text.atLineEnd_append, h.objectIdent.atLineEnd_eq,
      h.name.atLineEnd_eq, hconnect.atLineEnd_eq, h.selfType.atLineEnd_eq,
      s.self.oneLine_ident.atLineEnd_eq, h.signalText.atLineEnd_eq, h.closureText.atLineEnd_eq,
      h.valuesText.atLineEnd_eq]
    generalize s.objectIdent.toList.isEmpty = empty
    cases empty <;> rfl

end TemplateSet

/-! ### Signals -/

namespace Signal

/-- No name of the signal or of its parameters has a line end, whatever their types are. -/
structure OneLine (s : Signal) : Prop where
  name : Text.OneLine s.name.cpp
  parameters : ∀ p ∈ s.parameters, Text.OneLine p.ident

variable {s : Signal} {owner : String}

theorem OneLine.spelled (hs : s.OneLine) (htable : table.OneLine) {self : SelfValue}
    (hself : Text.OneLine self.type) :
    let ps := Parameters.spelled table self s.parameters
    Text.OneLine ps.signalText ∧ Text.OneLine ps.closureText ∧ Text.OneLine ps.valuesText := by
  have hcomma : Text.OneLine ", " := by decide
  have hobject : Text.OneLine (self.type ++ "&") := hself.append (by decide)
  have hformals : ∀ f ∈ s.parameters.map (fun p => p.cppType table ++ " " ++ p.ident),
      Text.OneLine f := by
    intro f hf
    obtain ⟨p, hp, rfl⟩ := List.mem_map.1 hf
    have htype : Text.OneLine (p.cppType table ++ " ") :=
      (p.oneLine_cppType htable).append (by decide)
    exact htype.append (hs.parameters p hp)
  have hvalues : ∀ v ∈ s.parameters.map Parameters.forwarded, Text.OneLine v := by
    intro v hv
    obtain ⟨p, hp, rfl⟩ := List.mem_map.1 hv
    have hopened : Text.OneLine ("::std::move(" ++ p.ident) :=
      Text.OneLine.append (by decide) (hs.parameters p hp)
    exact hopened.append (by decide)
  exact ⟨hcomma.intercalate hformals,
    hcomma.intercalate (List.forall_mem_cons.2 ⟨hobject, hformals⟩),
    hcomma.intercalate (List.forall_mem_cons.2 ⟨self.oneLine_ident, hvalues⟩)⟩

theorem OneLine.memberSubject (hs : s.OneLine) (htable : table.OneLine)
    (howner : Text.OneLine owner) : (s.memberSubject table owner).OneLine := by
  have hself : Text.OneLine (SelfValue.member owner).type := howner
  obtain ⟨hsignal, hclosure, hvalues⟩ := hs.spelled htable hself
  exact ⟨howner, hs.name, hself, hsignal, hclosure, hvalues⟩

theorem OneLine.freeSubject (hs : s.OneLine) (htable : table.OneLine)
    (howner : Text.OneLine s.owner) : (s.freeSubject table).OneLine := by
  have hself : Text.OneLine (SelfValue.resolve s.owner table).type := htable.cppName howner
  obtain ⟨hsignal, hclosure, hvalues⟩ := hs.spelled htable hself
  exact ⟨howner, hs.name, hself, hsignal, hclosure, hvalues⟩

end Signal

/-! ### Bridges -/

namespace Bridge

variable {b : Bridge} {text : Texts}

/-- No name in the bridge has a line end, whatever the types of its signals are. -/
structure OneLine (b : Bridge) : Prop where
  classes : ∀ o ∈ b.objects, Text.OneLine o.className
  targets : ∀ s ∈ b.freeSignals, Text.OneLine s.owner
  signals : ∀ d ∈ b.declared, d.2.OneLine

/-- The definition of each signal, those of objects before the free ones. -/
def sources (table : NameTable) (b : Bridge) : List String :=
  b.objects.flatMap (fun o =>
      o.signals.map fun s => builtinText .memberSource (s.memberSubject table o.className)) ++
    b.freeSignals.map fun s => builtinText .freeSource (s.freeSubject table)

theorem length_sources (b : Bridge) : (b.sources table).length = b.declared.length := by
  simp only [sources, declared, List.length_append, List.length_flatMap, List.length_map]

theorem OneLine.withoutFailing (hb : b.OneLine) : (b.withoutFailing table).OneLine := by
  refine ⟨?_, ?_, ?_⟩
  · intro o ho
    obtain ⟨o', ho', rfl⟩ := List.mem_map.1 ho
    exact hb.classes o' ho'
  · intro s hs
    exact hb.targets s (List.mem_filter.1 hs).1
  · intro d hd
    rw [declared_withoutFailing] at hd
    exact hb.signals d (List.mem_filter.1 hd).1

/-- No definition has a blank line or ends in more than one line end. -/
theorem OneLine.atLineEnd_sources (hb : b.OneLine) (htable : table.OneLine) :
    ∀ c ∈ b.sources table, atLineEnd false c.toList = some true := by
  intro c hc
  rcases List.mem_append.1 hc with hc | hc
  · obtain ⟨o, ho, hc⟩ := List.mem_flatMap.1 hc
    obtain ⟨s, hs, rfl⟩ := List.mem_map.1 hc
    have hsignal := hb.signals _ (b.mem_declared_of_member ho hs)
    exact (hsignal.memberSubject htable (hb.classes o ho)).atLineEnd_builtinText (.inl rfl)
  · obtain ⟨s, hs, rfl⟩ := List.mem_map.1 hc
    have hsignal := hb.signals _ (b.mem_declared_of_free hs)
    exact (hsignal.freeSubject htable (hb.targets s hs)).atLineEnd_builtinText (.inr rfl)

end Bridge

/-! ### Reports -/

namespace Report

/-- The definitions of a report, in the order of owners and of their fragments. -/
def sources (r : Report) : List String :=
  r.owners.flatMap fun o => o.block.filterMap Fragment.source?

theorem definitions_blocks (r : Report) :
    Fragment.definitions r.blocks.flatten = r.sources.map Fragment.trimLineEnds := by
  rw [Fragment.definitions, sources, blocks, ← List.flatMap_def, List.filterMap_flatMap]

theorem source_eq_empty_iff (r : Report) : r.source = "" ↔ r.sources = [] := by
  rw [source, Block.sourceText, Fragment.sourceText, definitions_blocks]
  cases r.sources <;> simp

theorem source_eq (r : Report) (h : r.sources ≠ []) :
    r.source = "\n\n".intercalate (r.sources.map Fragment.trimLineEnds) ++ "\n" := by
  rw [source, Block.sourceText, Fragment.sourceText, definitions_blocks]
  cases hsources : r.sources with
  | nil => exact absurd hsources h
  | cons c cs => rfl

end Report

/-- A member signal has one definition, with a declaration of its own or without. -/
theorem Signal.sources_memberPieces {owner : String} (s : Signal) :
    (s.memberPieces builtinTexts table owner).flatMap (·.source?.toList) =
      [builtinText .memberSource (s.memberSubject table owner)] := by
  rw [memberPieces_builtinTexts]
  cases s.inherit <;> rfl

/-- The definitions of the signals that do not fail, and no others. -/
theorem Bridge.sources_groups (b : Bridge) :
    (Report.ofGroups (b.groups builtinTexts table)).sources =
      (b.withoutFailing table).sources table := by
  have hfree (s : Signal) : (s.freePiece builtinTexts table).source?.toList =
      [builtinText .freeSource (s.freeSubject table)] := rfl
  simp only [Report.sources, List.filterMap_eq_flatMap_toList]
  rw [flatMap_owners_groups]
  simp only [Signal.sources_memberPieces, hfree, flatMap_ite_nil, ← List.map_eq_flatMap]
  rw [sources, withoutFailing, List.flatMap_map]
  rfl

/-- Each declared signal either fails or has its definition. -/
theorem Bridge.length_failures_add (b : Bridge) :
    (b.failures table).length + (b.withoutFailing table).declared.length = b.declared.length := by
  have hfailures : (b.failures table).length = b.declared.countP (·.2.Failing table) := by
    rw [failures, List.length_filterMap_eq_countP]
    refine List.countP_congr fun d _ => ?_
    simp [Signal.failing_iff]
  rw [hfailures, declared_withoutFailing, ← List.countP_eq_length_filter,
    List.length_eq_countP_add_countP (fun d => decide (d.2.Failing table))]
  simp

/--
With names of one line, whatever the types are, the source file gives all definitions back at its
blank lines, in their order, one for each signal that does not fail.
-/
theorem Bridge.source_recovers_definitions (b : Bridge) (table? : Option NameTable)
    (hb : b.OneLine) (htable : (b.effectiveTable table?).OneLine) :
    ∃ r, (b.generate table?).result = .ok r ∧
      (r.source = "" ↔ ∀ d ∈ b.declared, d.2.Failing (b.effectiveTable table?)) ∧
      (r.source ≠ "" → ∃ text, r.source = text ++ "\n" ∧
        splitBlankLines text = r.sources.map Fragment.trimLineEnds) ∧
      r.sources.length + r.skipped.length = b.declared.length := by
  let table := b.effectiveTable table?
  have hsources := @sources_groups table b
  refine ⟨_, result_generate_builtin b table?, ?_, ?_, ?_⟩
  · rw [Report.source_eq_empty_iff, hsources, ← List.length_eq_zero_iff, length_sources,
      List.length_eq_zero_iff, declared_withoutFailing, List.filter_eq_nil_iff]
    simp [table]
  · intro hsource
    have hne := mt (Report.source_eq_empty_iff _).2 hsource
    refine ⟨_, Report.source_eq _ hne, Text.splitBlankLines_intercalate (by simpa using hne) ?_⟩
    intro d hd
    obtain ⟨c, hc, rfl⟩ := List.mem_map.1 hd
    rw [hsources] at hc
    rw [Fragment.trimLineEnds, String.toList_ofList]
    exact Text.atLineEnd_trimRight (hb.withoutFailing.atLineEnd_sources htable c hc)
  · have hskipped := congrArg List.length (@skipped_groups builtinTexts table b)
    rw [List.length_map] at hskipped
    rw [hsources, length_sources, hskipped, Nat.add_comm, length_failures_add]

/-- A type with a line end, a signal without a type to write, and a free signal. -/
theorem Bridge.source_recovers_definitions_button :
    let clicked : Signal :=
      { owner := "Button", name := ⟨"clicked", "clicked"⟩, parameters := [⟨"by", "u8\n"⟩] }
    let odd : Signal :=
      { owner := "Button", name := ⟨"odd", "odd"⟩, parameters := [⟨"by", ""⟩] }
    let closed : Signal := { owner := "View", name := ⟨"closed", "closed"⟩ }
    let b : Bridge :=
      { objects := [{ ident := "Button", signals := [clicked, odd] }], freeSignals := [closed] }
    b.OneLine ∧ b.table.OneLine ∧
      ∃ r text, b.generate.result = .ok r ∧ r.source = text ++ "\n" ∧
        splitBlankLines text = r.sources.map Fragment.trimLineEnds ∧
        (splitBlankLines text).length = 2 := by
  intro clicked odd closed b
  have hb : b.OneLine := by
    refine ⟨by decide, by decide, ?_⟩
    change ∀ d ∈ [("Button::clicked", clicked), ("Button::odd", odd),
      ("View_closedConnect", closed)], d.2.OneLine
    simp only [List.forall_mem_cons]
    exact ⟨⟨by decide, by decide⟩, ⟨by decide, by decide⟩, ⟨by decide, by decide⟩, by simp⟩
  have htable : b.table.OneLine := ⟨by decide, by decide⟩
  refine ⟨hb, htable, ?_⟩
  have hbyte : ∃ c, spell {} "u8\n" = .ok c := by
    have hlexeme : lexeme? 'u' ['8', '\n'] = some (.ident "u8", ['\n']) := rfl
    have htokens : tokens "u8\n".toList = .ok [.ident "u8"] := by
      change tokens ('u' :: ['8', '\n']) = _
      rw [tokens_cons rfl hlexeme, tokens]
      rfl
    exact ⟨_, spell_eq_ok_iff.2 ⟨_, htokens, .of_name rfl (.builtin rfl)⟩⟩
  have hempty : spell {} "" = .error ⟨"", .empty⟩ := by
    rw [spell, ofText, show tokens "".toList = .ok [] from tokens_nil]
    rfl
  have hclicked : Parameter.firstRefusal? {} clicked.parameters = none :=
    Parameter.firstRefusal?_eq_none_iff.2 (by simpa [clicked] using hbyte)
  have hodd : Parameter.firstRefusal? {} odd.parameters = some ⟨"", .empty⟩ := by
    simp [Parameter.firstRefusal?, Parameter.refusal?, odd, hempty]
  obtain ⟨r, hr, hnone, hsplit, hcount⟩ := source_recovers_definitions b none hb htable
  have hfine : r.source ≠ "" := by
    intro hsource
    have hmem : ("Button::clicked", clicked) ∈ b.declared := List.mem_cons_self
    exact Signal.not_failing_iff.2 hclicked (hnone.1 hsource _ hmem)
  obtain ⟨text, htext, hpieces⟩ := hsplit hfine
  have hskipped : r.skipped.length = 1 := by
    have hfailures : b.failures {} = [("Button::odd", Unresolved.message ⟨"", .empty⟩)] := by
      change [("Button::clicked", clicked), ("Button::odd", odd),
        ("View_closedConnect", closed)].filterMap _ = _
      have hclosed : Parameter.firstRefusal? {} closed.parameters = none := rfl
      simp [hclicked, hodd, hclosed]
    have hreport := @skipped_groups builtinTexts {} b
    have hlength := congrArg List.length hreport
    rw [hfailures, List.length_map] at hlength
    rw [result_generate_builtin] at hr
    cases hr
    exact hlength
  refine ⟨r, text, hr, htext, hpieces, ?_⟩
  have hlength : b.declared.length = 3 := rfl
  rw [hpieces, List.length_map]
  omega

end SignalBinding
