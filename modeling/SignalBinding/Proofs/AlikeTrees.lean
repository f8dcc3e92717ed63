import SignalBinding.Proofs.FileContents
import SignalBinding.Proofs.SessionSteps

/-!
# Trees that look alike

Two file trees look alike if they have the same folders and the same files with the same contents,
whatever numbers the files have. Some files may be left out of account as far as their contents go:
then whatever does not read these cannot tell the trees apart, and keeps them alike.

## Main definitions

- `FileTree.Alike`: trees that are alike but for the contents of hidden files
- `FileTree.FileAt`: the file that a way leads to
- `SameOutcome`: outcomes with the same error, or with results that are related
- `FileTree.HasFile`: whether the file with a number is still at its place

## Main statements

- `FileTree.Alike.read`, `FileTree.Alike.find?`: what is seen of alike trees
- `FileTree.Alike.writeInto`, `FileTree.Alike.append`: what keeps trees alike
- `FileTree.HasFile.writeInto`: what does not take an open file away
-/

namespace SignalBinding

/-- The same error on both sides, or results that `R` relates. -/
inductive SameOutcome {ε α β : Type} (R : α → β → Prop) : Except ε α → Except ε β → Prop
  | ok {a : α} {b : β} (h : R a b) : SameOutcome R (.ok a) (.ok b)
  | error (e : ε) : SameOutcome R (.error e) (.error e)

theorem SameOutcome.elim {ε α β : Type} {R : α → β → Prop} {x : Except ε α} {y : Except ε β}
    (h : SameOutcome R x y) :
    (∃ a b, x = .ok a ∧ y = .ok b ∧ R a b) ∨ ∃ e, x = .error e ∧ y = .error e := by
  cases h with
  | ok h => exact .inl ⟨_, _, rfl, rfl, h⟩
  | error e => exact .inr ⟨e, rfl, rfl⟩

/-- Entries can be compared, so what becomes of a known tree can be computed. -/
instance : DecidableEq FileEntry
  | .folder, .folder => .isTrue rfl
  | .file n c, .file n' c' =>
    letI : Decidable (c = c') := ByteArray.instDecidableEq c c'
    decidable_of_iff (n = n' ∧ c = c') (by simp)
  | .folder, .file _ _ | .file _ _, .folder => .isFalse (by simp)

namespace FileTree

/-- Two entries of the same kind; files have the same content unless it is hidden. -/
inductive EntryAlike (hidden : Prop) : Option FileEntry → Option FileEntry → Prop
  | none : EntryAlike hidden none none
  | folder : EntryAlike hidden (some .folder) (some .folder)
  | file {n n' : Nat} {c c' : ByteArray} (h : ¬hidden → c = c') :
    EntryAlike hidden (some (.file n c)) (some (.file n' c'))

/-- The trees look alike everywhere, but for the contents of files at hidden places. -/
def Alike (hidden : Place → Prop) (tree tree' : FileTree) : Prop :=
  ∀ p, EntryAlike (hidden p) ( tree.entry? p) ( tree'.entry? p)

/-- The way leads to a file at the place. -/
def FileAt (tree : FileTree) (way : List String) (place : Place) : Prop :=
  tree.locate [] way = .ok place ∧ ∃ number content, tree.entry? place = some (.file number content)

/-- The file with the number is at the place. -/
def HasFile (tree : FileTree) (place : Place) (number : Nat) : Prop :=
  ∃ content, tree.entry? place = some (.file number content)

variable {hidden hidden' : Place → Prop} {t t' t₁ t₂ t₃ : FileTree} {place from_ : Place}
  {way : List String} {number number' : Nat}

theorem EntryAlike.refl (h : Prop) (e : Option FileEntry) : EntryAlike h e e := by
  rcases e with _ | _ | ⟨n, c⟩
  · exact .none
  · exact .folder
  · exact .file fun _ => rfl

theorem EntryAlike.elim {h : Prop} {e e' : Option FileEntry} (he : EntryAlike h e e') :
    (e = .none ∧ e' = .none) ∨ (e = some .folder ∧ e' = some .folder) ∨
      ∃ n n' c c', e = some (.file n c) ∧ e' = some (.file n' c') ∧ (¬h → c = c') := by
  cases he with
  | none => exact .inl ⟨rfl, rfl⟩
  | folder => exact .inr (.inl ⟨rfl, rfl⟩)
  | file hc => exact .inr (.inr ⟨_, _, _, _, rfl, rfl, hc⟩)

theorem Alike.refl (hidden : Place → Prop) (t : FileTree) : Alike hidden t t :=
  fun p => .refl _ ( t.entry? p)

theorem alike_of_entries (h : t.entries = t'.entries) : Alike hidden t t' := by
  intro p
  have hentry : t.entry? p = t'.entry? p := by rw [ entry?, entry?, h]
  rw [hentry]
  exact .refl _ _

theorem Alike.symm (h : Alike hidden t t') : Alike hidden t' t := by
  intro p
  obtain ⟨he, he'⟩ | ⟨he, he'⟩ | ⟨n, n', c, c', he, he', hc⟩ := (h p).elim <;> rw [he, he']
  · exact .none
  · exact .folder
  · exact .file fun hp => (hc hp).symm

theorem Alike.trans (h : Alike hidden t₁ t₂) (h' : Alike hidden t₂ t₃) : Alike hidden t₁ t₃ := by
  have hentry {hp : Prop} {e₁ e₂ e₃ : Option FileEntry} (h : EntryAlike hp e₁ e₂)
      (h' : EntryAlike hp e₂ e₃) : EntryAlike hp e₁ e₃ := by
    cases h with
    | none => exact h'
    | folder => exact h'
    | file hc =>
      cases h' with
      | file hc' => exact .file fun hp => (hc hp).trans (hc' hp)
  exact fun p => hentry (h p) (h' p)

theorem Alike.mono (h : Alike hidden t t') (hsub : ∀ p, hidden p → hidden' p) :
    Alike hidden' t t' := by
  intro p
  obtain ⟨he, he'⟩ | ⟨he, he'⟩ | ⟨n, n', c, c', he, he', hc⟩ := (h p).elim <;> rw [he, he']
  · exact .none
  · exact .folder
  · exact .file fun hp => hc fun hp' => hp (hsub p hp')

/-! ### What is seen -/

theorem Alike.locate (h : Alike hidden t t') (from_ : Place) (way : List String) :
    t.locate from_ way = t'.locate from_ way := by
  induction way generalizing from_ with
  | nil => rfl
  | cons step rest ih =>
    rw [FileTree.locate, FileTree.locate]
    split
    · exact ih _
    · cases rest with
      | nil => rfl
      | cons next rest =>
        dsimp only
        obtain ⟨he, he'⟩ | ⟨he, he'⟩ | ⟨n, n', c, c', he, he', -⟩ := (h (from_ ++ [step])).elim <;>
          rw [he, he']
        exact ih _

theorem Alike.find? (h : Alike hidden t t') (way : List String) :
    EntryAlike (hidden (Path.cancel [] way)) (t.find? way) (t'.find? way) := by
  rw [FileTree.find?, FileTree.find?, ← h.locate]
  cases hlocate : t.locate [] way with
  | error e => exact .none
  | ok place =>
    obtain rfl : place = Path.cancel [] way := eq_cancel_of_locate hlocate
    exact h _

theorem Alike.isFile (h : Alike hidden t t') (way : List String) :
    t.isFile way = t'.isFile way := by
  rw [FileTree.isFile, FileTree.isFile]
  obtain ⟨he, he'⟩ | ⟨he, he'⟩ | ⟨n, n', c, c', he, he', -⟩ := (h.find? way).elim <;> rw [he, he']

theorem Alike.isFolder (h : Alike hidden t t') (way : List String) :
    t.isFolder way = t'.isFolder way := by
  rw [FileTree.isFolder, FileTree.isFolder]
  obtain ⟨he, he'⟩ | ⟨he, he'⟩ | ⟨n, n', c, c', he, he', -⟩ := (h.find? way).elim <;> rw [he, he']

theorem Alike.isNone_find? (h : Alike hidden t t') (way : List String) :
    (t.find? way).isNone = (t'.find? way).isNone := by
  obtain ⟨he, he'⟩ | ⟨he, he'⟩ | ⟨n, n', c, c', he, he', -⟩ := (h.find? way).elim <;> rw [he, he']
  rfl

theorem Alike.hasFolder (h : Alike hidden t t') (p : Place) : t.hasFolder p = t'.hasFolder p := by
  rw [FileTree.hasFolder, FileTree.hasFolder]
  obtain ⟨he, he'⟩ | ⟨he, he'⟩ | ⟨n, n', c, c', he, he', -⟩ := (h p).elim <;> rw [he, he']

theorem Alike.fileAt (h : Alike hidden t t') (hfile : t.FileAt way place) :
    t'.FileAt way place := by
  obtain ⟨hlocate, n, c, hentry⟩ := hfile
  refine ⟨h.locate [] way ▸ hlocate, ?_⟩
  obtain ⟨he, -⟩ | ⟨he, -⟩ | ⟨-, n', -, c', -, he', -⟩ := (h place).elim
  · simp [hentry] at he
  · simp [hentry] at he
  · exact ⟨n', c', he'⟩

/-- A file that is not hidden is read alike. -/
theorem Alike.read (h : Alike hidden t t') (hway : ∀ place, t.FileAt way place → ¬hidden place) :
    t.read way = t'.read way := by
  rw [FileTree.read, FileTree.read, ← h.locate]
  cases hlocate : t.locate [] way with
  | error e => rfl
  | ok place =>
    dsimp only [bind, Except.bind]
    obtain ⟨he, he'⟩ | ⟨he, he'⟩ | ⟨n, n', c, c', he, he', hc⟩ := (h place).elim <;> rw [he, he']
    rw [hc (hway place ⟨hlocate, n, c, he⟩)]

/-! ### What keeps trees alike -/

theorem Alike.set {e e' : FileEntry} (h : Alike hidden t t') (hne : place ≠ [])
    (he : EntryAlike (hidden place) (some e) (some e')) :
    Alike hidden (t.set place e) (t'.set place e') := by
  intro p
  rw [entry?_set t hne, entry?_set t' hne]
  split
  next hp => exact hp ▸ he
  next => exact h p

theorem Alike.makeFolder (h : Alike hidden t t') (way : List String) :
    SameOutcome (Alike hidden) (t.makeFolder way) (t'.makeFolder way) := by
  rw [FileTree.makeFolder, FileTree.makeFolder, ← h.locate]
  cases t.locate [] way with
  | error e => exact .error e
  | ok place =>
    dsimp only [bind, Except.bind]
    obtain ⟨he, he'⟩ | ⟨he, he'⟩ | ⟨n, n', c, c', he, he', -⟩ := (h place).elim <;> rw [he, he']
    · exact .ok (h.set (place_ne_nil he (by simp)) .folder)
    · exact .error _
    · exact .error _

theorem Alike.ensureFolder (h : Alike hidden t t') (way : List String) :
    SameOutcome (Alike hidden) (t.ensureFolder way) (t'.ensureFolder way) := by
  rw [FileTree.ensureFolder, FileTree.ensureFolder, ← h.isFolder]
  obtain ⟨u, u', hu, hu', halike⟩ | ⟨e, he, he'⟩ := (h.makeFolder way).elim
  · rw [hu, hu']
    exact .ok halike
  · rw [he, he']
    dsimp only
    split
    · exact .ok h
    · exact .error e

theorem Alike.makeFoldersReversed (h : Alike hidden t t') (reversed : List String) :
    (t.makeFoldersReversed reversed).1 = (t'.makeFoldersReversed reversed).1 ∧
      Alike hidden (t.makeFoldersReversed reversed).2 (t'.makeFoldersReversed reversed).2 := by
  induction reversed generalizing t t' with
  | nil => exact ⟨rfl, h⟩
  | cons last before ih =>
    rw [FileTree.makeFoldersReversed, FileTree.makeFoldersReversed, ← h.isFolder]
    obtain ⟨u, u', hu, hu', halike⟩ | ⟨e, he, he'⟩ := (h.makeFolder (last :: before).reverse).elim
    · rw [hu, hu']
      exact ⟨rfl, halike⟩
    · rw [he, he']
      cases e with
      | missing =>
        obtain ⟨hsame, halike⟩ := ih h
        rcases hbefore : t.makeFoldersReversed before with ⟨_ | e, u⟩ <;>
          rcases hbefore' : t'.makeFoldersReversed before with ⟨_ | e', u'⟩ <;>
          rw [hbefore, hbefore'] at hsame halike <;> dsimp only at hsame halike ⊢
        · obtain ⟨v, v', hv, hv', hmade⟩ | ⟨e, he, he'⟩ :=
            (halike.ensureFolder (last :: before).reverse).elim
          · rw [hv, hv']
            exact ⟨rfl, hmade⟩
          · rw [he, he']
            exact ⟨rfl, halike⟩
        · cases hsame
        · cases hsame
        · exact ⟨hsame, halike⟩
      | isFolder | notFolder | «exists» =>
        dsimp only
        split
        · exact ⟨rfl, h⟩
        · exact ⟨rfl, h⟩

theorem Alike.makeFolders (h : Alike hidden t t') (way : List String) :
    (t.makeFolders way).1 = (t'.makeFolders way).1 ∧
      Alike hidden (t.makeFolders way).2 (t'.makeFolders way).2 :=
  h.makeFoldersReversed way.reverse

/-- The same file is opened, whatever its number is. -/
theorem Alike.openFile (h : Alike hidden t t') (way : List String) :
    SameOutcome (fun x y => x.1 = y.1 ∧ Alike hidden x.2.2 y.2.2)
      (t.openFile way) (t'.openFile way) := by
  rw [FileTree.openFile, FileTree.openFile, ← h.locate]
  cases t.locate [] way with
  | error e => exact .error e
  | ok place =>
    dsimp only [bind, Except.bind]
    obtain ⟨he, he'⟩ | ⟨he, he'⟩ | ⟨n, n', c, c', he, he', -⟩ := (h place).elim <;> rw [he, he']
    · dsimp only
      rw [← h.hasFolder]
      split
      · have hne := place_ne_nil he (by simp)
        have hmade : Alike hidden (t.set place (.file t.next .empty))
            (t'.set place (.file t'.next .empty)) := h.set hne (.file fun _ => rfl)
        exact .ok ⟨rfl, hmade⟩
      · exact .error _
    · exact .error _
    · exact .ok ⟨rfl, h⟩

theorem Alike.write (h : Alike hidden t t') (way : List String) (content : ByteArray) :
    SameOutcome (Alike hidden) (t.write way content) (t'.write way content) := by
  rw [FileTree.write, FileTree.write]
  obtain ⟨⟨place, n, u⟩, ⟨place', n', u'⟩, hu, hu', rfl, halike⟩ | ⟨e, he, he'⟩ :=
    (h.openFile way).elim
  · obtain ⟨-, -, ⟨old, hold⟩, -⟩ := openFile_spec hu
    rw [hu, hu']
    exact .ok (halike.set (place_ne_nil hold (by simp)) (.file fun _ => rfl))
  · rw [he, he']
    exact .error e

theorem Alike.writeInto (h : Alike hidden t t') (folder way : List String) (content : ByteArray) :
    (t.writeInto folder way content).1 = (t'.writeInto folder way content).1 ∧
      Alike hidden (t.writeInto folder way content).2 (t'.writeInto folder way content).2 := by
  rw [FileTree.writeInto, FileTree.writeInto]
  obtain ⟨hsame, halike⟩ := h.makeFolders folder
  rcases hmake : t.makeFolders folder with ⟨_ | e, u⟩ <;>
    rcases hmake' : t'.makeFolders folder with ⟨_ | e', u'⟩ <;>
    rw [hmake, hmake'] at hsame halike <;> dsimp only at hsame halike ⊢
  · obtain ⟨v, v', hv, hv', hmade⟩ | ⟨e, he, he'⟩ := (halike.write way content).elim
    · rw [hv, hv']
      exact ⟨rfl, hmade⟩
    · rw [he, he']
      exact ⟨rfl, halike⟩
  · cases hsame
  · cases hsame
  · exact ⟨hsame, halike⟩

/-! ### Growing files -/

/-- A hidden file grows unseen. -/
theorem alike_append (t : FileTree) (hplace : t.HasFile place number → hidden place)
    (more : ByteArray) : Alike hidden t (t.append place number more) := by
  by_cases h : t.HasFile place number
  · have hhidden := hplace h
    obtain ⟨content, h⟩ := h
    intro p
    rw [append_of_file h, entry?_set _ (place_ne_nil h (by simp))]
    split
    next hp =>
      rw [hp, h]
      exact .file fun hnot => absurd hhidden hnot
    next => exact .refl _ _
  · rw [append_of_no_file (by simpa [HasFile] using h)]
    exact .refl _ _

/-- Two open files at one place grow alike. -/
theorem Alike.append (h : Alike hidden t t') (hfile : t.HasFile place number)
    (hfile' : t'.HasFile place number') (more : ByteArray) :
    Alike hidden (t.append place number more) (t'.append place number' more) := by
  obtain ⟨content, hentry⟩ := hfile
  obtain ⟨content', hentry'⟩ := hfile'
  rw [append_of_file hentry, append_of_file hentry']
  refine h.set (place_ne_nil hentry (by simp)) (.file fun hp => ?_)
  obtain ⟨he, -⟩ | ⟨he, -⟩ | ⟨n, n', c, c', he, he', hc⟩ := (h place).elim
  · rw [hentry] at he
    cases he
  · rw [hentry] at he
    cases he
  · rw [hentry] at he
    rw [hentry'] at he'
    cases he
    cases he'
    rw [hc hp]

/-! ### Files that stay -/

theorem HasFile.extends (h : t.HasFile place number) (hext : Extends t t') :
    t'.HasFile place number :=
  h.imp fun _ => hext place _

/-- Opening a file that is there gives its number. -/
theorem HasFile.openFile {p : Place} {n : Nat} (h : t.HasFile place number)
    (hopen : t.openFile way = .ok (p, n, t')) :
    t'.HasFile place number ∧ (p = place → n = number) := by
  obtain ⟨content, h⟩ := h
  rw [FileTree.openFile] at hopen
  rcases hlocate : t.locate [] way with e | q
  · simp [hlocate, bind, Except.bind] at hopen
  · simp only [hlocate, bind, Except.bind] at hopen
    split at hopen
    next m old hentry =>
      cases hopen
      refine ⟨⟨content, h⟩, ?_⟩
      rintro rfl
      rw [h] at hentry
      cases hentry
      rfl
    next => cases hopen
    next hentry =>
      split at hopen
      · cases hopen
        have hext : Extends t (t.set p (.file t.next .empty)) := extends_set_of_none hentry _
        refine ⟨⟨content, hext place _ h⟩, ?_⟩
        rintro rfl
        rw [h] at hentry
        cases hentry
      · cases hopen

theorem HasFile.write {content : ByteArray} (h : t.HasFile place number)
    (hwrite : t.write way content = .ok t') : t'.HasFile place number := by
  rw [FileTree.write] at hwrite
  rcases hopen : t.openFile way with e | ⟨p, n, opened⟩
  · simp [hopen, bind, Except.bind] at hwrite
  · simp only [hopen, bind, Except.bind, pure, Except.pure, Except.ok.injEq] at hwrite
    subst hwrite
    obtain ⟨⟨old, hold⟩, hnumber⟩ := h.openFile hopen
    obtain ⟨-, -, ⟨old', hold'⟩, -⟩ := openFile_spec hopen
    have hset := entry?_set opened (place_ne_nil hold' (by simp)) (.file n content) place
    by_cases hp : place = p
    · rw [if_pos hp] at hset
      exact ⟨content, hnumber hp.symm ▸ hset⟩
    · rw [if_neg hp, hold] at hset
      exact ⟨old, hset⟩

/-- Writing a text takes no file away. -/
theorem HasFile.writeInto (h : t.HasFile place number) (folder way : List String)
    (content : ByteArray) : (t.writeInto folder way content).2.HasFile place number := by
  have hfolders := h.extends (extends_makeFolders t folder)
  rw [FileTree.writeInto]
  split
  next hmake =>
    rw [hmake] at hfolders
    exact hfolders
  next hmake =>
    rw [hmake] at hfolders
    split
    next hwrite => exact hfolders.write hwrite
    next => exact hfolders

theorem HasFile.append (h : t.HasFile place number) (p : Place) (n : Nat) (more : ByteArray) :
    (t.append p n more).HasFile place number := by
  by_cases hp : t.HasFile p n
  · obtain ⟨content, hp⟩ := hp
    obtain ⟨old, h⟩ := h
    have hset := entry?_set t (place_ne_nil hp (by simp)) (.file n (content ++ more)) place
    rw [append_of_file hp]
    by_cases hplace : place = p
    · subst hplace
      rw [h] at hp
      cases hp
      rw [if_pos rfl] at hset
      exact ⟨_, hset⟩
    · rw [if_neg hplace, h] at hset
      exact ⟨old, hset⟩
  · rw [append_of_no_file (by simpa [HasFile] using hp)]
    exact h

/-- A file that grows brings no other file to a place. -/
theorem HasFile.of_append {p : Place} {n : Nat} {more : ByteArray}
    (h : (t.append p n more).HasFile place number) : t.HasFile place number := by
  by_cases hp : t.HasFile p n
  · obtain ⟨content, hp⟩ := hp
    obtain ⟨old, h⟩ := h
    rw [append_of_file hp, entry?_set t (place_ne_nil hp (by simp))] at h
    by_cases hplace : place = p
    · rw [if_pos hplace] at h
      cases h
      exact ⟨content, hplace ▸ hp⟩
    · rw [if_neg hplace] at h
      exact ⟨old, h⟩
  · rwa [append_of_no_file (by simpa [HasFile] using hp)] at h

/-- Lines for hidden files leave the files alike. -/
theorem alike_receive {lines : LogLines}
    (h : ∀ line ∈ lines, t.HasFile line.1.place line.1.number → hidden line.1.place) :
    Alike hidden t (t.receive lines) := by
  induction lines generalizing t with
  | nil => exact .refl hidden t
  | cons line lines ih =>
    have hline := alike_append t (h line List.mem_cons_self) line.2
    exact hline.trans (ih fun line' hmem hfile => h line' (List.mem_cons_of_mem _ hmem)
      hfile.of_append)

/-- No file is taken away by lines that are written. -/
theorem HasFile.receive (h : t.HasFile place number) (lines : LogLines) :
    (t.receive lines).HasFile place number := by
  induction lines generalizing t with
  | nil => exact h
  | cons line lines ih => exact ih (h.append line.1.place line.1.number line.2)

theorem HasFile.of_receive {lines : LogLines} (h : (t.receive lines).HasFile place number) :
    t.HasFile place number := by
  induction lines generalizing t with
  | nil => exact h
  | cons line lines ih => exact (ih h).of_append

end FileTree

end SignalBinding
