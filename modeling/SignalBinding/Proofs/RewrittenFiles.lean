import SignalBinding.Proofs.FileContents
import SignalBinding.Proofs.SessionSteps

/-!
# Files that are written again

Writing a text changes a tree in two ways only: folders come into being on the way, and a file gets
its content. So a way leads to what it led to before, unless what is there has been written or made,
or the way passes a folder that was missing and leaves it again. What has been written once is
written again to the same place, without a folder being made, and leaves the tree as it is.

## Main definitions

- `FileTree.Rooted`: trees in which everything is in a folder
- `FileTree.Built`: a tree after some files have been written and some folders made
- `FileTree.Stored`: a file that has been written, in a folder that is there
- `FileTree.writeOut`: what becomes of the files when a text is written that may have no file

## Main statements

- `FileTree.Built.find?`: ways that lead to what they led to before
- `FileTree.writeOut_again`: writing two texts again leaves the tree as it is
-/

namespace SignalBinding

namespace Path

theorem cancel_concat {done way : List String} {step : String} (hstep : step ≠ "..") :
    cancel done (way ++ [step]) = cancel done way ++ [step] := by
  induction way generalizing done with
  | nil => simp [cancel, hstep]
  | cons next rest ih =>
    rw [List.cons_append, cancel, cancel]
    split <;> exact ih

end Path

namespace FileTree

variable {tree tree' t₁ t₂ t₃ : FileTree} {place p q from_ : Place} {way : List String}
  {content : ByteArray}

/-! ### Trees in which everything is in a folder -/

/-- Whatever there is in the tree is in a folder. -/
def Rooted (tree : FileTree) : Prop :=
  ∀ p e, tree.entry? p = some e → tree.entry? p.dropLast = some .folder

theorem rooted_of_entries
    (h : ∀ x ∈ tree.entries, tree.entry? x.1.dropLast = some .folder) : tree.Rooted := by
  intro p e he
  by_cases hp : p = []
  · subst hp
    exact entry?_nil tree
  · rw [entry?_of_ne_nil hp] at he
    obtain ⟨before, after, hentries, -⟩ := List.lookup_eq_some_iff.1 he
    exact h (p, e) (by simp [hentries])

/-- All folders above a place where something is are there. -/
theorem Rooted.entry?_of_prefix {e : FileEntry} (h : tree.Rooted) (he : tree.entry? p = some e)
    (hq : q <+: p) (hne : q ≠ p) : tree.entry? q = some .folder := by
  obtain ⟨more, rfl⟩ := hq
  induction more generalizing q with
  | nil => simp at hne
  | cons step rest ih =>
    have hnext : tree.entry? (q ++ [step]) = some .folder ∨ rest = [] := by
      by_cases hrest : rest = []
      · exact .inr hrest
      · refine .inl (ih  ?_ ?_)
        · simpa using he
        · simpa using hrest
    obtain hnext | rfl := hnext
    · simpa using h _ _ hnext
    · simpa using h _ _ he

theorem Rooted.locate {e : FileEntry} (h : tree.Rooted) (hway : ".." ∉ way)
    (he : tree.entry? (from_ ++ way) = some e) : tree.locate from_ way = .ok (from_ ++ way) := by
  induction way generalizing from_ with
  | nil => simp [FileTree.locate]
  | cons step rest ih =>
    obtain ⟨hstep, hrest⟩ := not_or.1 (mt List.mem_cons.2 hway)
    have hassoc : from_ ++ step :: rest = (from_ ++ [step]) ++ rest := by simp
    rw [hassoc] at he ⊢
    refine (locate_on_iff (Ne.symm hstep)).2 ?_
    by_cases hend : rest = []
    · exact .inl ⟨hend, by rw [hend, List.append_nil]⟩
    · refine .inr ⟨hend, h.entry?_of_prefix he (List.prefix_append _ _) ?_, ih hrest he⟩
      simpa using hend

/-- A way without steps back leads to what is at the place of the same steps. -/
theorem Rooted.find? (h : tree.Rooted) (hway : ".." ∉ way) :
    tree.find? way = tree.entry? way := by
  rw [FileTree.find?]
  cases hentry : tree.entry? way with
  | some e =>
    have hlocate : tree.locate [] way = .ok way := h.locate hway hentry
    rw [hlocate]
    exact hentry
  | none =>
    cases hlocate : tree.locate [] way with
    | error e => rfl
    | ok place =>
      have hplace := eq_cancel_of_locate hlocate
      rw [List.reverse_nil, Path.cancel_of_dotdot_not_mem hway] at hplace
      obtain rfl : place = way := hplace
      exact hentry

/-- A change at a place in a folder leaves everything in a folder, if no folder goes. -/
theorem Rooted.of_agreeOutside (h : tree.Rooted) (hagree : AgreeOutside [place] tree tree')
    (hne : place ≠ []) (hback : tree.entry? place.dropLast = some .folder)
    (hfolder : tree.entry? place = some .folder → tree'.entry? place = some .folder) :
    tree'.Rooted := by
  have hkeeps (q : Place) (hq : tree.entry? q = some .folder) : tree'.entry? q = some .folder := by
    by_cases hqp : q = place
    · subst hqp
      exact hfolder hq
    · rw [hagree q (by simpa using hqp), hq]
  intro p e he
  by_cases hp : p = place
  · subst hp
    exact hkeeps _ hback
  · rw [hagree p (by simpa using hp)] at he
    exact hkeeps _ (h p e he)

theorem Rooted.makeFolders (h : tree.Rooted) (way : List String) :
    (tree.makeFolders way).2.Rooted := by
  refine makeFolders_induction (fun t place part _ hlocate hentry h => ?_) h
  have hne : place ≠ [] := place_ne_nil hentry (by simp)
  refine h.of_agreeOutside (agreeOutside_set hne List.mem_cons_self) hne
    (entry?_dropLast hlocate) fun _ => ?_
  exact (entry?_set t hne _ _).trans (if_pos rfl)

theorem Rooted.write (h : tree.Rooted) (hwrite : tree.write way content = .ok tree') :
    tree'.Rooted := by
  obtain ⟨place, n, hlocate, hfolder, -, hagree⟩ := write_spec hwrite
  exact h.of_agreeOutside hagree (place_ne_nil rfl hfolder) (entry?_dropLast hlocate)
    fun hplace => absurd hplace hfolder

theorem Rooted.writeInto (h : tree.Rooted) (folder way : List String) (content : ByteArray) :
    (tree.writeInto folder way content).2.Rooted := by
  have hmade := h.makeFolders folder
  rw [FileTree.writeInto]
  split
  next hmake => rwa [hmake] at hmade
  next hmake =>
    rw [hmake] at hmade
    split
    next hwrite => exact hmade.write hwrite
    next => exact hmade

theorem Rooted.append (h : tree.Rooted) (place : Place) (number : Nat) (more : ByteArray) :
    (tree.append place number more).Rooted := by
  rw [FileTree.append]
  split
  next n content hentry =>
    split
    · have hne : place ≠ [] := place_ne_nil hentry (by simp)
      exact h.of_agreeOutside (agreeOutside_set hne List.mem_cons_self) hne (h _ _ hentry)
        (by simp [hentry])
    · exact h
  next => exact h

theorem Rooted.receive (h : tree.Rooted) (lines : LogLines) : (tree.receive lines).Rooted := by
  induction lines generalizing tree with
  | nil => exact h
  | cons line lines ih => exact ih (h.append _ _ _)

/-! ### What comes into being -/

/-- What may become of an entry: nothing, a folder that was missing, or a file. -/
inductive EntryBuilt (written made : Prop) : Option FileEntry → Option FileEntry → Prop
  | same (e : Option FileEntry) : EntryBuilt written made e e
  | folder (h : made) : EntryBuilt written made none (some .folder)
  | file {e : Option FileEntry} {n : Nat} {content : ByteArray} (h : written)
    (he : e ≠ some .folder) : EntryBuilt written made e (some (.file n content))

/--
From `tree` to `tree'`, files have been written at places `written`, and folders that were missing
have been made at places `made`.
-/
def Built (written made : Place → Prop) (tree tree' : FileTree) : Prop :=
  ∀ p, EntryBuilt (written p) (made p) ( tree.entry? p) ( tree'.entry? p)

variable {written made written' made' : Place → Prop}

theorem Built.refl (written made : Place → Prop) (tree : FileTree) :
    Built written made tree tree :=
  fun p => .same ( tree.entry? p)

theorem Built.trans (h : Built written made t₁ t₂) (h' : Built written made t₂ t₃) :
    Built written made t₁ t₃ := by
  have hentry {wr mk : Prop} {e₁ e₂ e₃ : Option FileEntry} (h : EntryBuilt wr mk e₁ e₂)
      (h' : EntryBuilt wr mk e₂ e₃) : EntryBuilt wr mk e₁ e₃ := by
    cases h with
    | same => exact h'
    | folder hmade =>
      cases h' with
      | same => exact .folder hmade
      | file _ he => exact absurd rfl he
    | file hwritten he =>
      cases h' with
      | same => exact .file hwritten he
      | file => exact .file hwritten he
  exact fun p => hentry (h p) (h' p)

theorem Built.mono (h : Built written made tree tree') (hwritten : ∀ p, written p → written' p)
    (hmade : ∀ p, made p → made' p) : Built written' made' tree tree' := by
  have hentry {wr wr' mk mk' : Prop} {e e' : Option FileEntry} (h : EntryBuilt wr mk e e')
      (hwr : wr → wr') (hmk : mk → mk') : EntryBuilt wr' mk' e e' := by
    cases h with
    | same => exact .same e
    | folder h => exact .folder (hmk h)
    | file h he => exact .file (hwr h) he
  exact fun p => hentry (h p) (hwritten p) (hmade p)

theorem built_makeFolders (tree : FileTree) (way : List String) :
    Built (fun _ => False) (· ∈ placesOnWay [] way) tree (tree.makeFolders way).2 := by
  refine makeFolders_induction (fun t place part hpart hlocate hentry h => h.trans ?_)
    (.refl _ _ tree)
  have hne : place ≠ [] := place_ne_nil hentry (by simp)
  intro p
  rw [entry?_set t hne]
  split
  next hp =>
    subst hp
    rw [hentry]
    exact .folder (mem_placesOnWay_of_locate hpart hlocate hne)
  next => exact .same _

theorem built_write (h : tree.write way content = .ok tree') :
    Built (· = Path.cancel [] way) (fun _ => False) tree tree' := by
  obtain ⟨place, n, hlocate, hfolder, hentry, hagree⟩ := write_spec h
  intro p
  by_cases hp : p = place
  · subst hp
    rw [hentry]
    exact .file (eq_cancel_of_locate hlocate) hfolder
  · rw [hagree p (by simpa using hp)]
    exact .same _

/-- No folder goes. -/
theorem Built.folder (h : Built written made tree tree') (hp : tree.entry? p = some .folder) :
    tree'.entry? p = some .folder := by
  have hbuilt := h p
  rw [hp] at hbuilt
  generalize tree'.entry? p = e at hbuilt
  cases hbuilt with
  | same => rfl
  | file _ he => exact absurd rfl he

theorem Built.find?_folder (h : Built written made tree tree')
    (hway : tree.find? way = some .folder) : tree'.find? way = some .folder := by
  obtain ⟨place, hlocate, hfolder⟩ := find?_eq_folder_iff.1 hway
  exact find?_eq_folder_iff.2 ⟨place, locate_mono (fun p => h.folder) hlocate, h.folder hfolder⟩

/-- Where nothing is written or made, everything stays. -/
theorem Built.entry (h : Built written made tree tree') (hwritten : ¬written p)
    (hmade : tree.entry? p = none → ¬made p) : tree'.entry? p = tree.entry? p := by
  have hbuilt := h p
  generalize hold : tree.entry? p = e at hbuilt hmade
  generalize tree'.entry? p = e' at hbuilt
  cases hbuilt with
  | same => rfl
  | folder h => exact absurd h (hmade rfl)
  | file h => exact absurd h hwritten

/-- A folder has been there unless it has been made. -/
theorem Built.folder_iff (h : Built written made tree tree')
    (hmade : tree.entry? p = none → ¬made p) :
    tree'.entry? p = some .folder ↔ tree.entry? p = some .folder := by
  refine ⟨fun hp => ?_, h.folder⟩
  have hbuilt := h p
  rw [hp] at hbuilt
  generalize tree.entry? p = e at hbuilt hmade
  cases hbuilt with
  | same => rfl
  | folder h => exact absurd h (hmade rfl)

/-! ### Ways in a tree that has been built on -/

theorem placesOnWay_concat {step : String} (hstep : step ≠ "..") :
    placesOnWay from_ (way ++ [step]) =
      placesOnWay from_ way ++ [Path.cancel from_.reverse way ++ [step]] := by
  induction way generalizing from_ with
  | nil => simp [placesOnWay, Path.cancel, hstep]
  | cons next rest ih =>
    rw [List.cons_append, placesOnWay, placesOnWay, Path.cancel]
    split
    · rw [ih, List.tail_reverse]
    · rw [ih, List.reverse_concat, List.cons_append]

section Find

variable (h : Built written made tree tree') (hrooted : tree.Rooted)
  (hwritten : ¬written (Path.cancel [] way))
  (hmade : ∀ p, made p → tree.entry? p = none →
    p ≠ Path.cancel [] way ∧ (p ∈ placesOnWay [] way → p <+: Path.cancel [] way))

include h hrooted hmade in
/-- A way that leads to something led there before, if the folders on it that were missing are above
its end: as something was there, none of them was missing. -/
theorem Built.locate_of_locate {found : FileEntry}
    (hfound : tree.entry? (Path.cancel [] way) = some found)
    (hlocate : tree'.locate [] way = .ok place) : tree.locate [] way = .ok place := by
  refine locate_mono_onWay (fun p hp hfolder => (h.folder_iff fun hnone hplace => ?_).1 hfolder)
    hlocate
  obtain ⟨hne, habove⟩ := hmade p hplace hnone
  rw [hrooted.entry?_of_prefix hfound (habove hp) hne] at hnone
  cases hnone

include h hrooted hwritten hmade in
/--
A way leads to what it led to before if this has not been written or made, and if all folders that
were missing on the way are above the place that it leads to.
-/
theorem Built.find? : tree'.find? way = tree.find? way := by
  have hend : tree'.entry? (Path.cancel [] way) = tree.entry? (Path.cancel [] way) :=
    h.entry hwritten fun hnone hplace => (hmade _ hplace hnone).1 rfl
  rw [FileTree.find?, FileTree.find?]
  cases hlocate : tree.locate [] way with
  | ok place =>
    obtain rfl : place = Path.cancel [] way := eq_cancel_of_locate hlocate
    rw [locate_mono (fun p => h.folder) hlocate]
    exact hend
  | error e =>
    cases hlocate' : tree'.locate [] way with
    | error e' => rfl
    | ok place =>
      obtain rfl : place = Path.cancel [] way := eq_cancel_of_locate hlocate'
      dsimp only
      rw [hend]
      cases hfound : tree.entry? (Path.cancel [] way) with
      | none => rfl
      | some found =>
        rw [h.locate_of_locate hrooted hmade hfound hlocate'] at hlocate
        cases hlocate

end Find

/-- A file that is not written keeps its content. -/
theorem Built.read (h : Built written made tree tree') (hwritten : ¬written (Path.cancel [] way))
    (hread : tree.read way = .ok content) : tree'.read way = .ok content := by
  obtain ⟨place, n, hlocate, hentry⟩ := read_eq_ok_iff.1 hread
  obtain rfl : place = Path.cancel [] way := eq_cancel_of_locate hlocate
  refine read_eq_ok_iff.2 ⟨_, n, locate_mono (fun p => h.folder) hlocate, ?_⟩
  rw [h.entry hwritten (by simp [hentry]), hentry]

/-! ### Writing a text -/

theorem writeInto_eq_ok_iff {folder : List String} :
    tree.writeInto folder way content = (none, tree') ↔
      ∃ made, tree.makeFolders folder = (none, made) ∧ made.write way content = .ok tree' := by
  rw [writeInto]
  rcases hmake : tree.makeFolders folder with ⟨_ | e, made⟩
  · dsimp only
    cases hwrite : made.write way content <;> simp [hwrite]
  · simp

theorem built_writeInto {folder : List String}
    (h : tree.writeInto folder way content = (none, tree')) :
    Built (· = Path.cancel [] way) (· ∈ placesOnWay [] folder) tree tree' := by
  obtain ⟨made, hmake, hwrite⟩ := writeInto_eq_ok_iff.1 h
  have hmade := built_makeFolders tree folder
  rw [hmake] at hmade
  exact (hmade.mono (fun _ => False.elim) fun _ hp => hp).trans
    ((built_write hwrite).mono (fun _ hp => hp) fun _ => False.elim)

/-- A file with a content at the end of a way, and a folder at the end of another one. -/
structure Stored (tree : FileTree) (folder way : List String) (place : Place) (number : Nat)
    (content : ByteArray) : Prop where
  folder : tree.find? folder = some .folder
  locate : tree.locate [] way = .ok place
  entry : tree.entry? place = some (.file number content)

variable {folder folder' way' : List String} {place' : Place} {number number' : Nat}
  {content' : ByteArray}

theorem Stored.place_ne_nil (h : tree.Stored folder way place number content) : place ≠ [] :=
  FileTree.place_ne_nil h.entry (by simp)

/-- What has been stored stays stored, with what its file holds by then. -/
theorem Stored.of_built (h : tree.Stored folder way place number content)
    (hbuilt : Built written made tree tree')
    (hentry : tree'.entry? place = some (.file number' content')) :
    tree'.Stored folder way place number' content' := by
  exact ⟨hbuilt.find?_folder h.folder, locate_mono (fun p => hbuilt.folder) h.locate, hentry⟩

theorem exists_stored (h : tree.writeInto folder way content = (none, tree')) :
    ∃ place number, tree'.Stored folder way place number content := by
  obtain ⟨made, hmake, hwrite⟩ := writeInto_eq_ok_iff.1 h
  obtain ⟨place, n, hlocate, -, hentry, -⟩ := write_spec hwrite
  have hbuilt := built_write hwrite
  exact ⟨place, n, hbuilt.find?_folder (find?_makeFolders hmake),
    locate_mono (fun p => hbuilt.folder) hlocate, hentry⟩

theorem makeFolders_of_folder (h : tree.find? way = some .folder) :
    tree.makeFolders way = (none, tree) := by
  obtain ⟨place, hlocate, hfolder⟩ := find?_eq_folder_iff.1 h
  have hexists : tree.makeFolder way = .error .exists := by
    simp [makeFolder, hlocate, hfolder, bind, Except.bind, throw, throwThe, MonadExceptOf.throw]
  rw [makeFolders]
  cases hreversed : way.reverse with
  | nil => rfl
  | cons step before =>
    rw [makeFoldersReversed, ← hreversed, List.reverse_reverse, hexists]
    dsimp only
    rw [isFolder_iff.2 h, if_pos rfl]

/-- To write to a file that is stored is to change its content. -/
theorem Stored.writeInto (h : tree.Stored folder way place number content) (content' : ByteArray) :
    tree.writeInto folder way content' = (none, tree.set place (.file number content')) := by
  refine writeInto_eq_ok_iff.2 ⟨tree, makeFolders_of_folder h.folder, ?_⟩
  simp [write, openFile, h.locate, h.entry, bind, Except.bind, pure, Except.pure]

theorem Stored.writeInto_self (h : tree.Stored folder way place number content) :
    tree.writeInto folder way content = (none, tree) := by
  rw [h.writeInto, set_eq_self h.entry h.place_ne_nil]

/-- Two texts that have been written, maybe to the same file, can be written again. -/
theorem writeInto_again (h₁ : tree.writeInto folder way content = (none, t₁))
    (h₂ : t₁.writeInto folder' way' content' = (none, t₂)) :
    ∃ t, t₂.writeInto folder way content = (none, t) ∧
      t.writeInto folder' way' content' = (none, t₂) := by
  obtain ⟨place, number, hfirst⟩ := exists_stored h₁
  obtain ⟨place', number', hsecond⟩ := exists_stored h₂
  have hbuilt := built_writeInto h₂
  by_cases hplace : place = place'
  · -- The first text comes back for a while.
    subst hplace
    have hagain := (hfirst.of_built hbuilt hsecond.entry).writeInto content
    have hentry := (entry?_set t₂ hsecond.place_ne_nil (.file number' content) place).trans
      (if_pos rfl)
    have hback := hsecond.of_built (built_writeInto hagain) hentry
    refine ⟨_, hagain, ?_⟩
    rw [hback.writeInto, set_set, set_eq_self hsecond.entry hsecond.place_ne_nil]
  · have hentry : t₂.entry? place = t₁.entry? place :=
      hbuilt.entry (fun hp => hplace (hp.trans (eq_cancel_of_locate hsecond.locate).symm))
        (by simp [hfirst.entry])
    have hstays := hfirst.of_built hbuilt (hentry.trans hfirst.entry)
    exact ⟨t₂, hstays.writeInto_self, hsecond.writeInto_self⟩

/-! ### Texts that may have no file -/

/-- Writes a text to the file at the end of the second way, behind making the folder at the end of
the first one, if there are such ways. -/
def writeOut (tree : FileTree) (ways? : Option (List String × List String)) (content : ByteArray) :
    Option FileError × FileTree :=
  match ways? with
  | none => (none, tree)
  | some (folder, way) => tree.writeInto folder way content

variable {ways? ways'? : Option (List String × List String)}

theorem built_writeOut (h : tree.writeOut ways? content = (none, tree')) :
    Built (fun p => ∃ ways ∈ ways?, p = Path.cancel [] ways.2)
      (fun p => ∃ ways ∈ ways?, p ∈ placesOnWay [] ways.1) tree tree' := by
  cases ways? with
  | none => cases h; exact .refl _ _ tree
  | some ways =>
    exact (built_writeInto h).mono (fun p hp => ⟨ways, rfl, hp⟩) fun p hp => ⟨ways, rfl, hp⟩

/-- Two texts that have been written can be written again, and then everything is as it was. -/
theorem writeOut_again (h₁ : tree.writeOut ways? content = (none, t₁))
    (h₂ : t₁.writeOut ways'? content' = (none, t₂)) :
    ∃ t, t₂.writeOut ways? content = (none, t) ∧ t.writeOut ways'? content' = (none, t₂) := by
  cases ways? with
  | none =>
    cases ways'? with
    | none => exact ⟨t₂, rfl, rfl⟩
    | some ways' =>
      obtain ⟨place, number, hstored⟩ := exists_stored h₂
      exact ⟨t₂, rfl, hstored.writeInto_self⟩
  | some ways =>
    cases ways'? with
    | none =>
      cases h₂
      obtain ⟨place, number, hstored⟩ := exists_stored h₁
      exact ⟨t₁, hstored.writeInto_self, rfl⟩
    | some ways' => exact writeInto_again h₁ h₂

end FileTree

end SignalBinding
