import SignalBinding.Proofs.DeclaredAsDefined
import SignalBinding.Proofs.FailureIsolation
import SignalBinding.Proofs.TypeNames

/-!
# Tables decide names only

Which signals are skipped, which fragments there are and for whom does not depend on the name table.
The texts depend on it only through the names that are looked up: those of the objects of free
signals, and the user's types in parameters. The class of a generated object is not among them.

## Main definitions

- `Bridge.mentioned`: the names that are looked up for a bridge
- `Owner.outline`: what an owner has, without the texts
-/

namespace SignalBinding

open Parameter
open TypeExpr
open TemplateSet (builtinText builtinTexts)

/-- Which of the fragments have definitions. -/
def Block.kinds (block : Block) : List Bool :=
  block.map fun f => f.source?.isSome

/-- How an owner is called, and which kinds of fragments it has. -/
def Owner.outline (w : Owner) : String × List Bool :=
  (w.name, w.block.kinds)

/-- The name in the parameter's type that a table may change. -/
def Parameter.userName? (p : Parameter) : Option String :=
  match TypeExpr.ofText p.type with
  | .ok t => t.userName?
  | .error _ => none

/-- The names in the parameter types of a signal that a table may change. -/
def Signal.typeNames (s : Signal) : List String :=
  s.parameters.filterMap Parameter.userName?

/-- The names that are looked up for a bridge. -/
def Bridge.mentioned (b : Bridge) : List String :=
  b.freeSignals.map Signal.owner ++ b.declared.flatMap fun d => d.2.typeNames

variable {text text' : Texts} {table table' : NameTable} {owner : String} {s : Signal}

/-! ### What no table decides -/

theorem Signal.failing_congr (table table' : NameTable) : s.Failing table ↔ s.Failing table' := by
  rw [failing_iff, failing_iff, firstRefusal?_eq table table']

theorem Bridge.skipped_groups_congr (b : Bridge) :
    (Report.ofGroups (b.groups text table)).skipped =
      (Report.ofGroups (b.groups text' table')).skipped := by
  simp only [Report.skipped_eq_filterMap, fates_groups, List.filterMap_append,
    List.filterMap_flatMap, List.filterMap_map, Function.comp_def, Signal.memberFate,
    Signal.freeFate, Signal.skipped?_fate, firstRefusal?_eq table table']

theorem Signal.kinds_memberPieces :
    (s.memberPieces text table owner).kinds = if s.inherit then [true] else [false, true] := by
  unfold memberPieces
  split <;> rfl

theorem Object.kinds_present (text text' : Texts) (table table' : NameTable) (o : Object) :
    (o.present text table).kinds = (o.present text' table').kinds := by
  have hkinds (text : Texts) (table : NameTable) : (o.present text table).kinds =
      (o.signals.filter (¬ ·.Failing table)).flatMap
        fun s => if s.inherit then [true] else [false, true] := by
    rw [present, Block.kinds, List.map_flatMap]
    congr 1
    funext s
    exact Signal.kinds_memberPieces
  simp only [hkinds, Signal.failing_congr table table']

theorem Bridge.outline_present (b : Bridge) :
    (b.present text table).map Owner.outline = (b.present text' table').map Owner.outline := by
  have hobject (text : Texts) (table : NameTable) (o : Object) :
      (if (o.present text table).isEmpty then []
        else [{ name := o.className, block := o.present text table }]).map Owner.outline =
      if (o.present text table).kinds.isEmpty then []
        else [(o.className, (o.present text table).kinds)] := by
    -- Whether an object is listed at all depends on the kinds only.
    rw [Block.kinds, List.isEmpty_map]
    split <;> rfl
  simp only [present, List.map_append, List.map_flatMap, List.map_map, hobject]
  congr 1
  · simp only [Object.kinds_present text text' table table']
  · simp only [Signal.failing_congr table table']
    rfl

/-! ### What the names decide -/

theorem Parameter.cppType_congr {p : Parameter}
    (h : ∀ i, p.userName? = some i → table.cppName i = table'.cppName i) :
    p.cppType table = p.cppType table' := by
  unfold userName? at h
  unfold cppType TypeExpr.spell
  cases ht : TypeExpr.ofText p.type with
  | error fault => rfl
  | ok t =>
    simp only [ht] at h
    exact TypeExpr.cpp_eq_iff.2 h

theorem Parameters.spelled_congr {self : SelfValue} {ps : List Parameter}
    (h : ∀ i ∈ ps.filterMap Parameter.userName?, table.cppName i = table'.cppName i) :
    spelled table self ps = spelled table' self ps := by
  have hmap : (ps.map fun p => p.cppType table ++ " " ++ p.ident) =
      ps.map fun p => p.cppType table' ++ " " ++ p.ident := by
    refine List.map_congr_left fun p hp => ?_
    rw [cppType_congr fun i hi => h i (List.mem_filterMap.2 ⟨p, hp, hi⟩)]
  rw [spelled, hmap]
  rfl

theorem Signal.memberSubject_congr
    (h : ∀ i ∈ s.typeNames, table.cppName i = table'.cppName i) :
    s.memberSubject table owner = s.memberSubject table' owner := by
  rw [memberSubject, Parameters.spelled_congr h]
  rfl

theorem Signal.freeSubject_congr (howner : table.cppName s.owner = table'.cppName s.owner)
    (h : ∀ i ∈ s.typeNames, table.cppName i = table'.cppName i) :
    s.freeSubject table = s.freeSubject table' := by
  have hself : SelfValue.resolve s.owner table = .resolve s.owner table' := by
    rw [SelfValue.resolve, howner]
    rfl
  rw [freeSubject, hself, Parameters.spelled_congr h]
  rfl

theorem Object.group_congr {o : Object}
    (h : ∀ s ∈ o.signals, ∀ i ∈ s.typeNames, table.cppName i = table'.cppName i) :
    o.group text table = o.group text table' := by
  have hfates : o.signals.map (Signal.memberFate text table o.className) =
      o.signals.map (Signal.memberFate text table' o.className) := by
    refine List.map_congr_left fun s hs => ?_
    rw [Signal.memberFate, Signal.fate, Signal.memberPieces, Signal.memberHelper,
      Signal.memberSubject_congr (h s hs), firstRefusal?_eq table table']
    rfl
  rw [group, hfates]
  rfl

theorem Signal.freeGroup_congr (howner : table.cppName s.owner = table'.cppName s.owner)
    (h : ∀ i ∈ s.typeNames, table.cppName i = table'.cppName i) :
    s.freeGroup text table = s.freeGroup text table' := by
  rw [freeGroup, freeFate, fate, freePiece, freeSubject_congr howner h,
    firstRefusal?_eq table table']
  rfl

theorem Bridge.groups_congr {b : Bridge}
    (h : ∀ i ∈ b.mentioned, table.cppName i = table'.cppName i) :
    b.groups text table = b.groups text table' := by
  have htypes (label : String) (s : Signal) (hs : (label, s) ∈ b.declared) :
      ∀ i ∈ s.typeNames, table.cppName i = table'.cppName i :=
    fun i hi => h i (List.mem_append_right _ (List.mem_flatMap.2 ⟨_, hs, hi⟩))
  have hobjects : b.objects.map (Object.group text table) =
      b.objects.map (Object.group text table') := by
    refine List.map_congr_left fun o ho => Object.group_congr fun s hs => ?_
    exact htypes _ s (b.mem_declared_of_member ho hs)
  have hfree : b.freeSignals.map (Signal.freeGroup text table) =
      b.freeSignals.map (Signal.freeGroup text table') := by
    refine List.map_congr_left fun s hs => Signal.freeGroup_congr ?_ ?_
    · exact h _ (List.mem_append_left _ (List.mem_map.2 ⟨s, hs, rfl⟩))
    · exact htypes _ s (b.mem_declared_of_free hs)
  rw [groups, hobjects, hfree]
  rfl

/-! ### The class of a generated object -/

/-- The fragments of an object, whose class has one name in all definitions. -/
structure Owner.IsClassOf (w : Owner) (o : Object) : Prop where
  name : w.name = o.className
  definitions : ∀ header source, .pair header source ∈ w.block →
    ∃ s ∈ o.signals, ∃ rest, source =
      "::QMetaObject::Connection\n" ++ o.className ++ "::" ++ s.name.connect.cpp ++
        "(::rust::Fn<void(" ++ rest

theorem Signal.source_of_mem_memberPieces {header source : String}
    (h : .pair header source ∈ s.memberPieces builtinTexts table owner) :
    ∃ rest, source =
      "::QMetaObject::Connection\n" ++ owner ++ "::" ++ s.name.connect.cpp ++
        "(::rust::Fn<void(" ++ rest := by
  have hsource : source = builtinText .memberSource (s.memberSubject table owner) := by
    rw [memberPieces_builtinTexts] at h
    split at h <;> simp at h <;> exact h.2
  obtain ⟨body, hbody⟩ := TemplateSet.exists_builtinText_memberSource (s.memberSubject table owner)
  rw [hsource, hbody, TemplateSet.Subject.memberSignature]
  simp only [String.append_assoc]
  exact ⟨_, rfl⟩

theorem Bridge.exists_isClassOf {b : Bridge} {o : Object} (ho : o ∈ b.objects)
    (hs : ∃ s ∈ o.signals, ¬ s.Failing table) :
    ∃ w ∈ b.present builtinTexts table, w.IsClassOf o := by
  obtain ⟨s, hs, hfine⟩ := hs
  have hhelper : .pair (builtinText .memberHeader (s.memberSubject table o.className))
      (builtinText .memberSource (s.memberSubject table o.className)) ∈
        o.present builtinTexts table := by
    refine List.mem_flatMap.2 ⟨s, List.mem_filter.2 ⟨hs, by simpa using hfine⟩, ?_⟩
    exact List.mem_append_right _ List.mem_cons_self
  refine ⟨{ name := o.className, block := o.present builtinTexts table }, ?_, rfl, ?_⟩
  · refine List.mem_append_left _ (List.mem_flatMap.2 ⟨o, ho, ?_⟩)
    rw [if_neg (mt List.isEmpty_iff.1 (List.ne_nil_of_mem hhelper))]
    exact List.mem_cons_self
  · intro header source hmem
    obtain ⟨s, hs, hpiece⟩ := List.mem_flatMap.1 hmem
    exact ⟨s, (List.mem_filter.1 hs).1, Signal.source_of_mem_memberPieces hpiece⟩

/-- A name in a parameter type that a table may change is the user's, and is written there. -/
theorem Signal.isUserName_of_mem_typeNames {i : String} (h : i ∈ s.typeNames) :
    IsUserName i ∧ ∃ p ∈ s.parameters, ∃ ts,
      TypeExpr.tokens p.type.toList = .ok ts ∧ .ident i ∈ ts := by
  obtain ⟨p, hp, hi⟩ := List.mem_filterMap.1 h
  unfold Parameter.userName? at hi
  split at hi
  next t ht =>
    obtain ⟨huser, ts, hts, hmem⟩ := TypeExpr.isUserName_of_ofText ht hi
    exact ⟨huser, p, hp, ts, hts, hmem⟩
  next => cases hi

/--
Whatever the tables, the same signals are skipped for the same reasons, and the same owners have the
same kinds of fragments; each object's class is called alike. The texts are the same as well if the
tables agree on the names that are mentioned, which in types are the user's alone.
-/
theorem Bridge.generate_names_only (b : Bridge) (t₁ t₂ : NameTable) (m₁? m₂? : Option NameTable) :
    let b₁ : Bridge := { b with table := t₁ }
    let b₂ : Bridge := { b with table := t₂ }
    ∃ r₁ r₂, (b₁.generate m₁?).result = .ok r₁ ∧ (b₂.generate m₂?).result = .ok r₂ ∧
      r₁.ok = r₂.ok ∧ r₁.skipped = r₂.skipped ∧
      r₁.owners.map Owner.outline = r₂.owners.map Owner.outline ∧
      ((∀ i ∈ b.mentioned, (b₁.effectiveTable m₁?).cppName i = (b₂.effectiveTable m₂?).cppName i) →
        r₁.owners = r₂.owners ∧ r₁.header = r₂.header ∧ r₁.source = r₂.source) ∧
      (∀ o ∈ b.objects, (∃ s ∈ o.signals, ¬ s.Failing (b₁.effectiveTable m₁?)) →
        (∃ w ∈ r₁.owners, w.IsClassOf o) ∧ ∃ w ∈ r₂.owners, w.IsClassOf o) ∧
      ∀ d ∈ b.declared, ∀ i ∈ d.2.typeNames, IsUserName i ∧
        ∃ p ∈ d.2.parameters, ∃ ts, TypeExpr.tokens p.type.toList = .ok ts ∧ .ident i ∈ ts := by
  intro b₁ b₂
  refine ⟨_, _, result_generate_builtin b₁ m₁?, result_generate_builtin b₂ m₂?, ?_⟩
  generalize b₁.effectiveTable m₁? = e₁
  generalize b₂.effectiveTable m₂? = e₂
  have hskipped : (Report.ofGroups (b.groups builtinTexts e₁)).skipped =
      (Report.ofGroups (b.groups builtinTexts e₂)).skipped := b.skipped_groups_congr
  refine ⟨congrArg List.isEmpty hskipped, hskipped, ?_, ?_, ?_, ?_⟩
  · rw [owners_groups, owners_groups]
    exact b.outline_present
  · intro hagree
    have hgroups : b₁.groups builtinTexts e₁ = b₂.groups builtinTexts e₂ :=
      groups_congr (b := b) hagree
    rw [hgroups]
    exact ⟨rfl, rfl, rfl⟩
  · rintro o ho ⟨s, hs, hfine⟩
    rw [owners_groups, owners_groups]
    have hfine' : ¬ s.Failing e₂ := fun h => hfine ((Signal.failing_congr e₁ e₂).2 h)
    exact ⟨exists_isClassOf ho ⟨s, hs, hfine⟩, exists_isClassOf ho ⟨s, hs, hfine'⟩⟩
  · exact fun d _ i hi => Signal.isUserName_of_mem_typeNames hi

/-- A table with another name for the class itself, which no type mentions. -/
theorem Bridge.generate_names_only_button :
    let moved : Signal :=
      { owner := "Button", name := ⟨"moved", "moved"⟩, parameters := [⟨"to", "&QPoint"⟩] }
    let button : Object := { ident := "Button", signals := [moved] }
    let b : Bridge := { objects := [button] }
    let table : NameTable := { renames := Glossary.empty.insert "Button" "Widget" }
    ∃ r₁ r₂, b.generate.result = .ok r₁ ∧ ({ b with table } : Bridge).generate.result = .ok r₂ ∧
      r₁.header = r₂.header ∧ r₁.source = r₂.source ∧ ∃ w ∈ r₂.owners, w.IsClassOf button := by
  intro moved button b table
  have hlexeme : lexeme? 'Q' ['P', 'o', 'i', 'n', 't'] = some (.ident "QPoint", []) := rfl
  have htokens : tokens "&QPoint".toList = .ok [.amp, .ident "QPoint"] := by
    change tokens ('&' :: 'Q' :: ['P', 'o', 'i', 'n', 't']) = _
    rw [tokens_cons rfl rfl, tokens_cons rfl hlexeme, tokens_nil]
    rfl
  have hpoint : ∃ c, spell {} "&QPoint" = .ok c := by
    have hname : Names {} "QPoint" [] "QPoint" := .user (by decide) (by decide) rfl rfl
    exact ⟨_, spell_eq_ok_iff.2 ⟨_, htokens,
      .reference none (.of_name rfl hname) (by simp) (by simp)⟩⟩
  have hfine : ¬ moved.Failing {} :=
    Signal.not_failing_iff.2 (firstRefusal?_eq_none_iff.2 (by simpa [moved] using hpoint))
  have hmentioned (i : String) (hi : i ∈ b.mentioned) : i = "QPoint" := by
    obtain ⟨d, hd, hi⟩ := List.mem_flatMap.1 hi
    obtain rfl := List.mem_singleton.1 hd
    obtain ⟨-, p, hp, ts, hts, hmem⟩ := Signal.isUserName_of_mem_typeNames hi
    obtain rfl := List.mem_singleton.1 hp
    rw [htokens] at hts
    cases hts
    simpa using hmem
  have hagree (i : String) (hi : i ∈ b.mentioned) : b.table.cppName i = table.cppName i := by
    rw [hmentioned i hi]
    rfl
  obtain ⟨r₁, r₂, h₁, h₂, -, -, -, htexts, hclass, -⟩ := generate_names_only b {} table none none
  obtain ⟨-, hheader, hsource⟩ := htexts hagree
  obtain ⟨-, hw⟩ := hclass button List.mem_cons_self ⟨moved, List.mem_cons_self, hfine⟩
  exact ⟨r₁, r₂, h₁, h₂, hheader, hsource, hw⟩

end SignalBinding
