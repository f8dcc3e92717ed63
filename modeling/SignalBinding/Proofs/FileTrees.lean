import SignalBinding.CommandLine.Inputs

/-!
# What file operations change

A file tree is known by what is at each place, so an operation is described by the places at which
it changes something. A way leads to one place at most, whatever the tree is, and leads there as
long as folders stay folders. Making folders takes nothing away, and adds folders on the way only.

## Main definitions

- `FileTree.AgreeOutside`: trees that differ at some places only
- `FileTree.Extends`: a tree that has all that another one has
-/

namespace SignalBinding

/-! ### Ways and the places that they pass -/

namespace Path

theorem dotdot_not_mem_cancel {done way : List String} (h : ".." ∉ done) :
    ".." ∉ cancel done way := by
  induction way generalizing done with
  | nil => simpa [cancel] using h
  | cons step rest ih =>
    rw [cancel]
    split
    · exact ih fun hmem => h (List.mem_of_mem_tail hmem)
    next hstep => exact ih (by simpa [Ne.symm hstep] using h)

theorem cancel_of_dotdot_not_mem {done way : List String} (h : ".." ∉ way) :
    cancel done way = done.reverse ++ way := by
  induction way generalizing done with
  | nil => simp [cancel]
  | cons step rest ih =>
    obtain ⟨hstep, hrest⟩ := not_or.1 (mt List.mem_cons.2 h)
    rw [cancel, if_neg (Ne.symm hstep), ih hrest]
    simp

/-- A way without steps back stays as it is. -/
theorem cancel_cancel (way : List String) : cancel [] (cancel [] way) = cancel [] way := by
  rw [cancel_of_dotdot_not_mem (dotdot_not_mem_cancel (by simp))]
  simp

end Path

namespace FileTree

variable {tree tree' : FileTree} {place p from_ : Place} {way : List String} {step : String}

theorem placesOnWay_subset {way' : List String} (h : way <+: way') :
    placesOnWay from_ way ⊆ placesOnWay from_ way' := by
  induction way generalizing from_ way' with
  | nil => simp [placesOnWay]
  | cons step rest ih =>
    obtain ⟨more, rfl⟩ := h
    have hrest : rest <+: rest ++ more := List.prefix_append rest more
    rw [List.cons_append, placesOnWay, placesOnWay]
    split
    · exact ih hrest
    · exact List.cons_subset_cons _ (ih hrest)

/-- A way ends at a place that it passes, unless it has led back to where it comes from. -/
theorem cancel_mem_placesOnWay (from_ : Place) (way : List String) :
    Path.cancel from_.reverse way ∈ placesOnWay from_ way ∨
      Path.cancel from_.reverse way <+: from_ := by
  induction way generalizing from_ with
  | nil => simp [Path.cancel]
  | cons step rest ih =>
    rw [Path.cancel, placesOnWay]
    split
    · have hback := ih from_.dropLast
      rw [← List.tail_reverse] at hback
      exact hback.imp_right fun h => h.trans (List.dropLast_prefix from_)
    · have hon := ih (from_ ++ [step])
      rw [List.reverse_append, List.reverse_singleton, List.singleton_append] at hon
      obtain hmem | hpre := hon
      · exact .inl (List.mem_cons_of_mem _ hmem)
      · obtain heq | hpre := List.prefix_concat_iff.1 hpre
        · exact .inl (heq ▸ List.mem_cons_self)
        · exact .inr hpre

/-! ### Entries -/

theorem entry?_nil (tree : FileTree) : tree.entry? [] = some .folder := rfl

theorem entry?_of_ne_nil (h : p ≠ []) : tree.entry? p = tree.entries.lookup p := by
  simp [ entry?, h]

theorem lookup_put (place p : Place) (entry : FileEntry) (entries : List (Place × FileEntry)) :
    (put place entry entries).lookup p =
      if p = place then some entry else entries.lookup p := by
  have hlookup (q : Place) (e : FileEntry) (rest : List (Place × FileEntry)) :
      List.lookup p ((q, e) :: rest) = if p = q then some e else rest.lookup p := by
    by_cases h : p = q
    · simp [h]
    · have hb : (p == q) = false := by simpa using h
      simp [List.lookup_cons, hb, h]
  induction entries with
  | nil => rw [put, hlookup]
  | cons head rest ih =>
    obtain ⟨q, e⟩ := head
    rw [put, hlookup]
    split
    next hq =>
      subst hq
      rw [hlookup]
      split <;> rfl
    next hq =>
      rw [hlookup, ih]
      split
      next hp => rw [if_neg (hp ▸ hq)]
      next => rfl

theorem put_put (place : Place) (e e' : FileEntry) (entries : List (Place × FileEntry)) :
    put place e' (put place e entries) = put place e' entries := by
  induction entries with
  | nil => simp [put]
  | cons head rest ih =>
    obtain ⟨q, f⟩ := head
    by_cases hq : q = place
    · simp [put, hq]
    · simp [put, hq, ih]

theorem put_of_lookup {entry : FileEntry} {entries : List (Place × FileEntry)}
    (h : entries.lookup place = some entry) : put place entry entries = entries := by
  induction entries with
  | nil => simp at h
  | cons head rest ih =>
    obtain ⟨q, f⟩ := head
    by_cases hq : q = place
    · subst hq
      simp_all [put]
    · have hb : (place == q) = false := by simpa using Ne.symm hq
      simp only [List.lookup_cons, hb] at h
      rw [put, if_neg hq, ih h]

theorem entry?_set (tree : FileTree) (hplace : place ≠ []) (entry : FileEntry) (p : Place) :
    FileTree.entry? (tree.set place entry) p = if p = place then some entry else tree.entry? p := by
  by_cases hp : p = []
  · subst hp
    rw [if_neg (Ne.symm hplace)]
    rfl
  · rw [entry?_of_ne_nil hp, entry?_of_ne_nil hp, set, lookup_put]

theorem set_set (tree : FileTree) (place : Place) (e e' : FileEntry) :
    (tree.set place e).set place e' = tree.set place e' := by
  rw [set, set, set, put_put]

/-- There is a folder at the root. -/
theorem place_ne_nil {found : Option FileEntry} (h : tree.entry? place = found)
    (hfound : found ≠ some .folder) : place ≠ [] := by
  rintro rfl
  exact hfound h.symm

/-- What is at a place already need not be put there. -/
theorem set_eq_self {entry : FileEntry} (h : tree.entry? place = some entry)
    (hne : place ≠ []) : tree.set place entry = tree := by
  rw [entry?_of_ne_nil hne] at h
  rw [set, put_of_lookup h]

/-! ### Where a way leads to -/

theorem locate_back : tree.locate from_ (".." :: way) = tree.locate from_.dropLast way := by
  simp [locate]

theorem locate_on_iff (hstep : step ≠ "..") :
    tree.locate from_ (step :: way) = .ok place ↔
      (way = [] ∧ place = from_ ++ [step]) ∨
        (way ≠ [] ∧ tree.entry? (from_ ++ [step]) = some .folder ∧
          tree.locate (from_ ++ [step]) way = .ok place) := by
  rw [locate, if_neg hstep]
  cases way with
  | nil => simp [eq_comm]
  | cons next rest =>
    dsimp only
    rcases tree.entry? (from_ ++ [step]) with _ | _ | ⟨n, c⟩ <;> simp

/-- There is one place at most that a way can lead to. -/
theorem eq_cancel_of_locate (h : tree.locate from_ way = .ok place) :
    place = Path.cancel from_.reverse way := by
  induction way generalizing from_ with
  | nil =>
    rw [locate] at h
    cases h
    simp [Path.cancel]
  | cons step rest ih =>
    by_cases hstep : step = ".."
    · subst hstep
      rw [locate_back] at h
      rw [ih h, Path.cancel, if_pos rfl, List.tail_reverse]
    · rw [Path.cancel, if_neg hstep]
      obtain ⟨rfl, rfl⟩ | ⟨-, -, h⟩ := (locate_on_iff hstep).1 h
      · simp [Path.cancel]
      · rw [ih h]
        simp

/-- Only the folders on a way decide where it leads to. -/
theorem locate_mono_onWay (hfolders : ∀ p ∈ placesOnWay from_ way,
    tree.entry? p = some .folder → tree'.entry? p = some .folder)
    (h : tree.locate from_ way = .ok place) : tree'.locate from_ way = .ok place := by
  induction way generalizing from_ with
  | nil => exact h
  | cons step rest ih =>
    rw [placesOnWay] at hfolders
    by_cases hstep : step = ".."
    · subst hstep
      rw [if_pos rfl] at hfolders
      rw [locate_back] at h ⊢
      exact ih hfolders h
    · rw [if_neg hstep] at hfolders
      rw [locate_on_iff hstep] at h ⊢
      obtain hend | ⟨hne, hentry, h⟩ := h
      · exact .inl hend
      · exact .inr ⟨hne, hfolders _ List.mem_cons_self hentry,
          ih (fun p hp => hfolders p (List.mem_cons_of_mem _ hp)) h⟩

/-- A way leads to the same place as long as folders stay folders. -/
theorem locate_mono (hfolders : ∀ p, tree.entry? p = some .folder → tree'.entry? p = some .folder)
    (h : tree.locate from_ way = .ok place) : tree'.locate from_ way = .ok place :=
  locate_mono_onWay (fun p _ => hfolders p) h

/-- All folders on the way to a place are there. -/
theorem entry?_of_prefix (h : tree.locate from_ way = .ok place)
    (hfrom : ∀ q, q <+: from_ → tree.entry? q = some .folder) :
    ∀ q, q <+: place → q ≠ place → tree.entry? q = some .folder := by
  induction way generalizing from_ with
  | nil =>
    rw [locate] at h
    cases h
    exact fun q hq _ => hfrom q hq
  | cons step rest ih =>
    by_cases hstep : step = ".."
    · subst hstep
      rw [locate_back] at h
      exact ih h fun q hq => hfrom q (hq.trans (List.dropLast_prefix _))
    · obtain ⟨rfl, rfl⟩ | ⟨-, hfolder, h⟩ := (locate_on_iff hstep).1 h
      · intro q hq hne
        obtain heq | hq := List.prefix_concat_iff.1 hq
        · exact absurd heq hne
        · exact hfrom q hq
      · refine ih h fun q hq => ?_
        obtain rfl | hq := List.prefix_concat_iff.1 hq
        · exact hfolder
        · exact hfrom q hq

/-- A place that is led to from the root is in a folder. -/
theorem entry?_dropLast (h : tree.locate [] way = .ok place) :
    tree.entry? place.dropLast = some .folder := by
  obtain rfl | ⟨before, last, rfl⟩ := place.eq_nil_or_concat
  · exact entry?_nil tree
  · refine entry?_of_prefix h (fun q hq => ?_) _ (List.dropLast_prefix _) (by simp)
    rw [List.prefix_nil.1 hq, entry?_nil]

/-- A way from the root passes all the places that parts of it lead to. -/
theorem mem_placesOnWay_of_locate {part : List String} (hpart : part <+: way)
    (h : tree.locate [] part = .ok place) (hne : place ≠ []) : place ∈ placesOnWay [] way := by
  have hplace := eq_cancel_of_locate h
  obtain hmem | hpre := cancel_mem_placesOnWay [] part
  · exact placesOnWay_subset hpart (hplace ▸ hmem)
  · exact absurd (hplace.trans (List.prefix_nil.1 hpre)) hne

theorem locate_concat (h : tree.locate from_ way = .ok place)
    (hfolder : tree.entry? place = some .folder) (step : String) :
    tree.locate from_ (way ++ [step]) =
      .ok (if step = ".." then place.dropLast else place ++ [step]) := by
  have hlast (q : Place) : tree.locate q [step] =
      .ok (if step = ".." then q.dropLast else q ++ [step]) := by
    by_cases hstep : step = ".."
    · rw [hstep, locate_back, if_pos rfl, locate]
    · rw [if_neg hstep, locate_on_iff hstep]
      exact .inl ⟨rfl, rfl⟩
  induction way generalizing from_ with
  | nil =>
    rw [locate] at h
    cases h
    exact hlast _
  | cons next rest ih =>
    rw [List.cons_append]
    by_cases hnext : next = ".."
    · subst hnext
      rw [locate_back] at h ⊢
      exact ih h
    · rw [locate_on_iff hnext] at h ⊢
      refine .inr ⟨by simp, ?_⟩
      obtain ⟨rfl, rfl⟩ | ⟨-, hentry, h⟩ := h
      · exact ⟨hfolder, hlast _⟩
      · exact ⟨hentry, ih h⟩

/-! ### How trees compare -/

/-- The trees differ at the places `places` at most. -/
def AgreeOutside (places : List Place) (tree tree' : FileTree) : Prop :=
  ∀ p ∉ places, tree'.entry? p = tree.entry? p

/-- All that is in `tree` is in `tree'`, too. -/
def Extends (tree tree' : FileTree) : Prop :=
  ∀ p e, tree.entry? p = some e → tree'.entry? p = some e

theorem AgreeOutside.refl (places : List Place) (tree : FileTree) :
    AgreeOutside places tree tree :=
  fun _ _ => rfl

theorem AgreeOutside.trans {places : List Place} {t₁ t₂ t₃ : FileTree}
    (h : AgreeOutside places t₁ t₂) (h' : AgreeOutside places t₂ t₃) :
    AgreeOutside places t₁ t₃ :=
  fun p hp => (h' p hp).trans (h p hp)

theorem AgreeOutside.mono {places places' : List Place} (h : AgreeOutside places tree tree')
    (hsub : places ⊆ places') : AgreeOutside places' tree tree' :=
  fun p hp => h p fun hmem => hp (hsub hmem)

theorem agreeOutside_set {places : List Place} {entry : FileEntry} (hne : place ≠ [])
    (hmem : place ∈ places) : AgreeOutside places tree (tree.set place entry) := by
  intro p hp
  rw [entry?_set _ hne, if_neg]
  rintro rfl
  exact hp hmem

theorem Extends.refl (tree : FileTree) : Extends tree tree := fun _ _ h => h

theorem Extends.trans {t₁ t₂ t₃ : FileTree} (h : Extends t₁ t₂) (h' : Extends t₂ t₃) :
    Extends t₁ t₃ :=
  fun p e he => h' p e (h p e he)

theorem extends_set_of_none (h : tree.entry? place = none) (entry : FileEntry) :
    Extends tree (tree.set place entry) := by
  intro p e he
  rw [entry?_set _ (place_ne_nil h (by simp)), if_neg]
  · exact he
  · rintro rfl
    simp [h] at he

/-! ### Folders -/

theorem makeFolder_eq_ok_iff :
    tree.makeFolder way = .ok tree' ↔
      ∃ place, tree.locate [] way = .ok place ∧ tree.entry? place = none ∧
        tree' = tree.set place .folder := by
  rw [makeFolder]
  rcases hlocate : tree.locate [] way with e | place
  · simp [bind, Except.bind]
  · rcases hentry : tree.entry? place with _ | _ <;>
      simp [bind, Except.bind, pure, Except.pure, throw, throwThe, MonadExceptOf.throw, hentry,
        eq_comm]

/--
Making the folders of a way keeps what is kept by making one folder, at a place where nothing is, to
which a part of the way leads.
-/
theorem makeFolders_induction {motive : FileTree → Prop} {way : List String}
    (step : ∀ tree place part, part <+: way → tree.locate [] part = .ok place →
      tree.entry? place = none → motive tree → motive (tree.set place .folder))
    {tree : FileTree} (h : motive tree) : motive (tree.makeFolders way).2 := by
  have one {tree tree' : FileTree} {part : List String} (hpart : part <+: way)
      (hmake : tree.makeFolder part = .ok tree') (h : motive tree) : motive tree' := by
    obtain ⟨place, hlocate, hentry, rfl⟩ := makeFolder_eq_ok_iff.1 hmake
    exact step tree place part hpart hlocate hentry h
  have all (reversed : List String) (hpart : reversed.reverse <+: way) (tree : FileTree)
      (h : motive tree) : motive (tree.makeFoldersReversed reversed).2 := by
    induction reversed generalizing tree with
    | nil => exact h
    | cons last before ih =>
      have hbefore : before.reverse <+: way := by
        rw [List.reverse_cons] at hpart
        exact (List.prefix_append _ _).trans hpart
      rw [makeFoldersReversed]
      split
      next hmake => exact one hpart hmake h
      next =>
        have hrest := ih hbefore tree h
        split
        next heq => simpa [heq] using hrest
        next heq =>
          simp only [heq] at hrest
          split
          next hensure =>
            rw [ensureFolder] at hensure
            split at hensure
            next hmake =>
              cases hensure
              exact one hpart hmake hrest
            next =>
              split at hensure
              · cases hensure
                exact hrest
              · cases hensure
          next => exact hrest
      next =>
        split
        · exact h
        · exact h
  exact all way.reverse (by simp) tree h

theorem extends_makeFolders (tree : FileTree) (way : List String) :
    Extends tree (tree.makeFolders way).2 :=
  makeFolders_induction
    (fun _ _ _ _ _ hentry h => h.trans (extends_set_of_none hentry .folder)) (.refl tree)

theorem agreeOutside_makeFolders (tree : FileTree) (way : List String) :
    AgreeOutside (placesOnWay [] way) tree (tree.makeFolders way).2 := by
  refine makeFolders_induction (fun t place part hpart hlocate hentry h => ?_) (.refl _ tree)
  have hne : place ≠ [] := place_ne_nil hentry (by simp)
  exact h.trans (agreeOutside_set hne (mem_placesOnWay_of_locate hpart hlocate hne))

theorem find?_eq_folder_iff :
    tree.find? way = some .folder ↔
      ∃ place, tree.locate [] way = .ok place ∧ tree.entry? place = some .folder := by
  rw [find?]
  rcases tree.locate [] way with e | place <;> simp

theorem isFolder_iff : tree.isFolder way = true ↔ tree.find? way = some .folder := by
  rw [isFolder]
  rcases tree.find? way with _ | _ | _ <;> simp

theorem find?_makeFolder (h : tree.makeFolder way = .ok tree') :
    tree'.find? way = some .folder := by
  obtain ⟨place, hlocate, hentry, rfl⟩ := makeFolder_eq_ok_iff.1 h
  have hset := extends_set_of_none hentry .folder
  refine find?_eq_folder_iff.2 ⟨place, locate_mono (fun p => hset p _) hlocate, ?_⟩
  exact (entry?_set _ (place_ne_nil hentry (by simp)) _ _).trans (if_pos rfl)

theorem find?_ensureFolder (h : tree.ensureFolder way = .ok tree') :
    tree'.find? way = some .folder := by
  rw [ensureFolder] at h
  split at h
  next hmake =>
    cases h
    exact find?_makeFolder hmake
  next =>
    split at h
    next hfolder =>
      cases h
      exact isFolder_iff.1 hfolder
    next => cases h

theorem find?_makeFoldersReversed {reversed : List String}
    (h : tree.makeFoldersReversed reversed = (none, tree')) :
    tree'.find? reversed.reverse = some .folder := by
  cases reversed with
  | nil => rfl
  | cons last before =>
    rw [makeFoldersReversed] at h
    split at h
    next hmake =>
      cases h
      exact find?_makeFolder hmake
    next =>
      split at h
      next => cases h
      next =>
        split at h
        next hensure =>
          cases h
          exact find?_ensureFolder hensure
        next => cases h
    next =>
      split at h
      next hfolder =>
        cases h
        exact isFolder_iff.1 hfolder
      next => cases h

/-- Folders that could be made are there. -/
theorem find?_makeFolders (h : tree.makeFolders way = (none, tree')) :
    tree'.find? way = some .folder := by
  simpa using find?_makeFoldersReversed h

/-- In a folder that is there, nothing is missing for another one. -/
theorem makeFolder_ne_missing (hfind : tree.find? way = some .folder) (step : String) :
    tree.makeFolder (way ++ [step]) ≠ .error .missing := by
  obtain ⟨place, hlocate, hfolder⟩ := find?_eq_folder_iff.1 hfind
  have hconcat := locate_concat hlocate hfolder step
  simp only [makeFolder, hconcat, bind, Except.bind]
  split
  · simp [throw, throwThe, MonadExceptOf.throw]
  · simp [pure, Except.pure]

theorem makeFolders_ne_missing (tree : FileTree) (way : List String) :
    (tree.makeFolders way).1 ≠ some .missing := by
  have hreversed (reversed : List String) :
      (tree.makeFoldersReversed reversed).1 ≠ some .missing := by
    induction reversed with
    | nil => simp [makeFoldersReversed]
    | cons last before ih =>
      rw [makeFoldersReversed]
      split
      next => simp
      next =>
        split
        next hrest => simpa [hrest] using ih
        next tree' hrest =>
          -- The folder for the last step has been made by now.
          have hbefore := find?_makeFoldersReversed hrest
          split
          next => simp
          next e hensure =>
            rw [ensureFolder] at hensure
            split at hensure
            next => cases hensure
            next hmake =>
              split at hensure
              next => cases hensure
              next =>
                cases hensure
                rw [List.reverse_cons] at hmake
                rintro ⟨⟩
                exact makeFolder_ne_missing hbefore last hmake
      next hne _ =>
        split
        · simp
        · simpa using hne
  exact hreversed way.reverse

end FileTree

end SignalBinding
