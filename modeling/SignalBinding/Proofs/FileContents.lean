import SignalBinding.Proofs.FileTrees

/-!
# What files hold

A file holds what was written to it last, whatever else is written to other files or made into
folders, and a file that grows twice grows once by both. A folder that is there has room for a file.
-/

namespace SignalBinding

/-- What reading gives where there is something. -/
def FileEntry.read : FileEntry → Except FileError ByteArray
  | file _ content => .ok content
  | folder => .error .isFolder

namespace FileTree

variable {tree tree' : FileTree} {place p from_ : Place} {way : List String}

/-! ### Reading and writing -/

theorem read_eq_ok_iff {content : ByteArray} :
    tree.read way = .ok content ↔
      ∃ place n, tree.locate [] way = .ok place ∧ tree.entry? place = some (.file n content) := by
  rw [read]
  rcases hlocate : tree.locate [] way with e | place
  · simp [bind, Except.bind]
  · rcases hentry : tree.entry? place with _ | _ | ⟨n, c⟩ <;>
      simp [bind, Except.bind, pure, Except.pure, throw, throwThe, MonadExceptOf.throw, hentry]

/-- Opening a file changes nothing but that the file may come into being. -/
theorem openFile_spec {number : Nat} (h : tree.openFile way = .ok (place, number, tree')) :
    tree.locate [] way = .ok place ∧ tree.entry? place ≠ some .folder ∧
      (∃ content, tree'.entry? place = some (.file number content)) ∧
      AgreeOutside [place] tree tree' := by
  rw [openFile] at h
  rcases hlocate : tree.locate [] way with e | q
  · simp [hlocate, bind, Except.bind] at h
  · simp only [hlocate, bind, Except.bind] at h
    split at h
    next n content hentry =>
      cases h
      exact ⟨rfl, by simp [hentry], ⟨content, hentry⟩, .refl _ _⟩
    next => cases h
    next hentry =>
      split at h
      · cases h
        have hne := place_ne_nil hentry (by simp)
        refine ⟨rfl, by simp [hentry], ⟨.empty, ?_⟩, agreeOutside_set hne List.mem_cons_self⟩
        exact (entry?_set _ hne _ _).trans (if_pos rfl)
      · cases h

theorem write_spec {content : ByteArray} (h : tree.write way content = .ok tree') :
    ∃ place n, tree.locate [] way = .ok place ∧ tree.entry? place ≠ some .folder ∧
      tree'.entry? place = some (.file n content) ∧ AgreeOutside [place] tree tree' := by
  rw [write] at h
  rcases hopen : tree.openFile way with e | ⟨place, number, opened⟩
  · simp [hopen, bind, Except.bind] at h
  · simp only [hopen, bind, Except.bind, pure, Except.pure, Except.ok.injEq] at h
    subst h
    obtain ⟨hlocate, hfolder, ⟨old, hold⟩, hagree⟩ := openFile_spec hopen
    have hne := place_ne_nil hold (by simp)
    refine ⟨place, number, hlocate, hfolder, (entry?_set _ hne _ _).trans (if_pos rfl), ?_⟩
    exact hagree.trans (agreeOutside_set hne List.mem_cons_self)

/-- What is kept outside of a place that is no folder leaves all ways as they are. -/
theorem AgreeOutside.locate (h : AgreeOutside [place] tree tree')
    (hfolder : tree.entry? place ≠ some .folder) (hlocate : tree.locate from_ way = .ok p) :
    tree'.locate from_ way = .ok p := by
  refine locate_mono (fun q hq => ?_) hlocate
  rw [h q, hq]
  rw [List.mem_singleton]
  rintro rfl
  exact hfolder hq

/-- A file holds what has been written to it last. -/
theorem read_write {content : ByteArray} (h : tree.write way content = .ok tree') :
    tree'.read way = .ok content := by
  obtain ⟨place, n, hlocate, hfolder, hentry, hagree⟩ := write_spec h
  exact read_eq_ok_iff.2 ⟨place, n, hagree.locate hfolder hlocate, hentry⟩

/-- A file keeps what it holds when another one is written. -/
theorem read_write_of_ne {way' : List String} {content content' : ByteArray}
    (hread : tree.read way = .ok content) (h : tree.write way' content' = .ok tree')
    (hne : Path.cancel [] way ≠ Path.cancel [] way') : tree'.read way = .ok content := by
  obtain ⟨place, n, hlocate, hentry⟩ := read_eq_ok_iff.1 hread
  obtain ⟨place', n', hlocate', hfolder, -, hagree⟩ := write_spec h
  have hplaces : place ≠ place' := by
    rintro rfl
    exact hne ((eq_cancel_of_locate hlocate).symm.trans (eq_cancel_of_locate hlocate'))
  refine read_eq_ok_iff.2 ⟨place, n, hagree.locate hfolder hlocate, ?_⟩
  rw [hagree place (by simpa using hplaces), hentry]

theorem Extends.read {content : ByteArray} (h : Extends tree tree')
    (hread : tree.read way = .ok content) : tree'.read way = .ok content := by
  obtain ⟨place, n, hlocate, hentry⟩ := read_eq_ok_iff.1 hread
  exact read_eq_ok_iff.2 ⟨place, n, locate_mono (fun p => h p _) hlocate, h place _ hentry⟩

/-- In a folder that is there, a file is there or can be made. -/
theorem openFile_ne_missing (hfind : tree.find? way = some .folder) (step : String) :
    tree.openFile (way ++ [step]) ≠ .error .missing := by
  obtain ⟨place, hlocate, hfolder⟩ := find?_eq_folder_iff.1 hfind
  have hback := entry?_dropLast hlocate
  have hconcat := locate_concat hlocate hfolder step
  simp only [openFile, hconcat, bind, Except.bind]
  split
  next => simp [pure, Except.pure]
  next => simp [throw, throwThe, MonadExceptOf.throw]
  next hentry =>
    have hstep : step ≠ ".." := by
      rintro rfl
      simp [hback] at hentry
    simp [if_neg hstep, hasFolder, hfolder, pure, Except.pure]

theorem write_ne_missing (hfind : tree.find? way = some .folder) (step : String)
    (content : ByteArray) : tree.write (way ++ [step]) content ≠ .error .missing := by
  intro h
  rw [write] at h
  rcases hopen : tree.openFile (way ++ [step]) with e | ⟨place, number, opened⟩
  · simp only [hopen, bind, Except.bind, Except.error.injEq] at h
    exact openFile_ne_missing hfind step (h ▸ hopen)
  · simp [hopen, bind, Except.bind, pure, Except.pure] at h

/-- A folder is no file. -/
theorem write_folder (hfind : tree.find? way = some .folder) (content : ByteArray) :
    tree.write way content = .error .isFolder := by
  obtain ⟨place, hlocate, hfolder⟩ := find?_eq_folder_iff.1 hfind
  simp [write, openFile, hlocate, hfolder, bind, Except.bind, throw, throwThe, MonadExceptOf.throw]

theorem read_of_find? {found : FileEntry} (h : tree.find? way = some found) :
    tree.read way = found.read := by
  rw [find?] at h
  rcases hlocate : tree.locate [] way with e | place
  · simp [hlocate] at h
  · simp only [hlocate] at h
    cases found <;> simp [read, FileEntry.read, hlocate, h, bind, Except.bind, pure, Except.pure,
      throw, throwThe, MonadExceptOf.throw]

theorem read_ne_missing {found : FileEntry} (h : tree.find? way = some found) :
    tree.read way ≠ .error .missing := by
  rw [read_of_find? h]
  cases found <;> simp [FileEntry.read]

/-- What is found in the same way is read in the same way. -/
theorem read_congr {way' : List String} (h : tree'.find? way' = tree.find? way)
    (hsome : tree.find? way ≠ none) : tree'.read way' = tree.read way := by
  obtain ⟨found, hfound⟩ := Option.ne_none_iff_exists'.1 hsome
  rw [read_of_find? hfound, read_of_find? (h.trans hfound)]

/-- Where there is nothing, nothing can be read. -/
theorem exists_read_eq_error (h : tree.find? way = none) : ∃ e, tree.read way = .error e := by
  cases hread : tree.read way with
  | error e => exact ⟨e, rfl⟩
  | ok content =>
    obtain ⟨place, n, hlocate, hentry⟩ := read_eq_ok_iff.1 hread
    simp [find?, hlocate, hentry] at h

/-! ### Growing files -/

theorem append_of_file {number : Nat} {content : ByteArray}
    (h : tree.entry? place = some (.file number content)) (more : ByteArray) :
    tree.append place number more = tree.set place (.file number (content ++ more)) := by
  rw [append, h]
  exact if_pos rfl

theorem append_of_no_file {number : Nat}
    (h : ∀ content, tree.entry? place ≠ some (.file number content)) (more : ByteArray) :
    tree.append place number more = tree := by
  rw [append]
  split
  next n content hentry =>
    split
    next hn => exact absurd (hn ▸ hentry) (h content)
    next => rfl
  next => rfl

theorem append_empty (tree : FileTree) (place : Place) (number : Nat) :
    tree.append place number .empty = tree := by
  by_cases h : ∃ content, tree.entry? place = some (.file number content)
  · obtain ⟨content, h⟩ := h
    rw [append_of_file h, ByteArray.append_empty, set_eq_self h (place_ne_nil h (by simp))]
  · exact append_of_no_file (by simpa using h) _

/-- A file that grows twice grows once by both. -/
theorem append_append (tree : FileTree) (place : Place) (number : Nat) (more more' : ByteArray) :
    (tree.append place number more).append place number more' =
      tree.append place number (more ++ more') := by
  by_cases h : ∃ content, tree.entry? place = some (.file number content)
  · obtain ⟨content, h⟩ := h
    have hne := place_ne_nil h (by simp)
    have hgrown := (entry?_set tree hne (.file number (content ++ more)) place).trans
      (if_pos rfl)
    rw [append_of_file h, append_of_file hgrown, append_of_file h, set_set,
      ByteArray.append_assoc]
  · have h : ∀ content, tree.entry? place ≠ some (.file number content) := by simpa using h
    rw [append_of_no_file h, append_of_no_file h, append_of_no_file h]

theorem agreeOutside_append (tree : FileTree) (place : Place) (number : Nat) (more : ByteArray) :
    AgreeOutside [place] tree (tree.append place number more) := by
  by_cases h : ∃ content, tree.entry? place = some (.file number content)
  · obtain ⟨content, h⟩ := h
    rw [append_of_file h]
    exact agreeOutside_set (place_ne_nil h (by simp)) List.mem_cons_self
  · rw [append_of_no_file (by simpa using h)]
    exact .refl _ _

end FileTree

end SignalBinding
