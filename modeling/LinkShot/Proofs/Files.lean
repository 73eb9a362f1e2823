import LinkShot.Files
import LinkShot.Proofs.FilePath

/-!
Files by their paths: what an appended file reads as, and what the entries of a folder read as after
one of them has changed.
-/
namespace LinkShot.Files

open FileTree (Found Plain Walks steps start)

variable {f f' : Files} {path path' parent folder name : FilePath} {bs new : Text.Bytes}
  {x : FileTree} {entries : List (FilePath × FileTree)} {found : Found}
  {place done names rest : List FilePath} {changed : Option FileTree}

/-- The folder in which the program works is there, by its own names. -/
structure Working (f : Files) : Prop where
  folder : ∃ entries, f.root.get? f.here = some (.folder entries)
  plain : ∀ name ∈ f.here, Plain name

/-- What a file holds; one that cannot be read holds nothing. -/
def contents (f : Files) (path : FilePath) : Text.Bytes := (f.read path).toOption.getD []

theorem find_iff : f.find path = .ok found ↔
    path.bytes ≠ [] ∧ Walks f.root true maxLinks (start f.here path) (steps path) found := by
  rw [find, ← FileTree.walks_iff]
  split <;> simp [*]

theorem resolve_iff : f.resolve path = .ok x ↔
    ∃ place, f.find path = .ok (.present place) ∧ f.root.get? place = some x := by
  unfold resolve
  cases hf : f.find path with
  | error => simp
  | ok found =>
    cases found with
    | absent => simp
    | present place => cases hg : f.root.get? place <;> simp [hg]

theorem read_iff : f.read path = .ok bs ↔ f.resolve path = .ok (.file bs) := by
  unfold read
  split <;> simp [*]

theorem resolve_ne_denied : f.resolve path ≠ .error .denied := by
  unfold resolve find
  split
  · rename_i e hf
    rintro ⟨⟩
    split at hf
    · cases hf
    · exact FileTree.walk_ne_denied hf
  · simp
  · split <;> simp

/-- Only a locked file is denied. -/
theorem denied_iff : f.read path = .error .denied ↔ f.resolve path = .ok .locked := by
  have hresolve : f.resolve path ≠ .error .denied := resolve_ne_denied
  unfold read
  split <;> simp_all

/-- A file is a path that gives contents, or that is locked. -/
theorem isFile_iff : f.isFile path = true ↔
    (∃ bs, f.read path = .ok bs) ∨ f.read path = .error .denied := by
  simp only [read_iff, denied_iff, isFile]
  cases f.resolve path with
  | error => simp
  | ok x => cases x <;> simp [FileTree.isFile]

theorem read_congr (h : f.resolve path = f'.resolve path') :
    f.read path = f'.read path' := by
  rw [read, read, h]

theorem list_iff : f.list path = .ok names ↔
    ∃ entries, f.resolve path = .ok (.folder entries) ∧ names = entries.map (·.1) := by
  unfold list
  split <;> simp [*, eq_comm]

theorem contents_of_read (h : f.read path = .ok bs) : f.contents path = bs := by
  simp [contents, h, Except.toOption]

theorem plain_start (hw : f.Working) (path : FilePath) :
    ∀ name ∈ start f.here path, Plain name := by
  intro name hn
  unfold start at hn
  split at hn
  · cases hn
  · exact hw.plain name hn

theorem makeFoldersFrom_of_walks (hr : rest ≠ [])
    (hw : Walks f.root true maxLinks [] (done ++ (names ++ rest)) found) :
    f.makeFoldersFrom done names = .ok f := by
  induction names generalizing done with
  | nil => rfl
  | cons name names ih =>
    rw [List.cons_append, List.append_cons] at hw
    have hrest : names ++ rest ≠ [] := by simp [hr]
    obtain ⟨⟨p, hfolder⟩, q, hname⟩ := FileTree.walks_part hrest hw
    rw [List.append_assoc, List.cons_append, List.nil_append] at hfolder
    rw [makeFoldersFrom, FileTree.walks_iff.mpr hname]
    dsimp only
    rw [FileTree.walks_iff.mpr hfolder]
    exact ih hw

/-- Where the last name of a path is looked for, the folders on the way to it are there. -/
theorem makeFolders_of_find (hw : f.Working) (hf : f.find path = .ok found)
    (h : path.parent? = some parent) (hp : parent.bytes ≠ []) :
    f.makeFolders parent = .ok f := by
  obtain ⟨-, hwalk⟩ := find_iff.mp hf
  obtain ⟨habsolute, last, hnamed⟩ := FilePath.named_parent h hp
  have hstart : start f.here parent = start f.here path := by
    rw [start, start, habsolute]
  obtain ⟨entries, hfolder⟩ := hw.folder
  obtain ⟨entries, hfrom⟩ :
      ∃ entries, f.root.get? ([] ++ start f.here path) = some (.folder entries) :=
    FileTree.folder_start hfolder path
  simp only [FileTree.named] at hnamed
  obtain ⟨way, tail, hsteps, hway, htail⟩ := List.filter_eq_append_iff.mp hnamed
  have hne : tail ≠ [] := by
    rintro rfl
    cases htail
  have hparent :
      Walks f.root true maxLinks [] (start f.here path ++ (steps parent ++ tail)) found := by
    rw [← FileTree.walks_iff] at hwalk ⊢
    rw [FileTree.walk_entered (plain_start hw path) hfrom, List.nil_append,
      FileTree.walk_dots hne, ← hway, ← FileTree.walk_dots hne, ← hsteps, hwalk]
  rw [makeFolders, hstart]
  exact makeFoldersFrom_of_walks hne hparent

theorem working_set (hw : f.Working) (hk : FileTree.Keeps f.root (f.root.set changed place)) :
    (f.set changed place).Working := by
  obtain ⟨entries, hfolder⟩ := hw.folder
  obtain ⟨y, hy, ha⟩ := hk _ _ hfolder rfl
  cases ha
  exact ⟨⟨_, hy⟩, hw.plain⟩

theorem working_makeFoldersFrom (hw : f.Working) (h : f.makeFoldersFrom done names = .ok f') :
    f'.Working := by
  induction names generalizing f done with
  | nil =>
    cases h
    exact hw
  | cons name names ih =>
    unfold makeFoldersFrom at h
    split at h
    · cases h
    · rename_i p last hwalk
      obtain ⟨entries, hfolder⟩ := hw.folder
      obtain ⟨_, hroot⟩ := FileTree.folder_start hfolder ⟨[FilePath.slash]⟩
      obtain ⟨⟨_, hp⟩, hnone⟩ := FileTree.folder_of_absent hroot (FileTree.walks_iff.mp hwalk)
      exact ih (working_set hw (FileTree.keeps_set_absent _ hp hnone)) h
    · split at h
      · exact ih hw h
      · cases h
      · cases h

/-- Where a path leads to, it finds the file that is put there. -/
theorem read_set (hf : f.find path = .ok found)
    (hk : FileTree.Keeps f.root (f.root.set (some (.file bs)) found.place)) :
    (f.set (some (.file bs)) found.place).read path = .ok bs := by
  obtain ⟨hne, hwalk⟩ := find_iff.mp hf
  have hplace : (f.root.set (some (.file bs)) found.place).get? found.place = some (.file bs) :=
    FileTree.get?_set_self
  have hthere := FileTree.walks_keeps hk hwalk hplace nofun
  rw [read_iff, resolve_iff]
  exact ⟨found.place, find_iff.mpr ⟨hne, hthere⟩, hplace⟩

/-- A file that was appended to holds what it held before, and what was added. -/
theorem read_append (hw : f.Working) (h : f.append path new = .ok f') :
    f'.Working ∧ f'.read path = .ok (f.contents path ++ new) := by
  unfold append at h
  cases hf : f.find path with
  | error e => simp [hf] at h
  | ok found =>
    rw [hf] at h
    cases found with
    | absent p name =>
      cases h
      obtain ⟨entries, hfolder⟩ := hw.folder
      obtain ⟨_, hstart⟩ := FileTree.folder_start hfolder path
      obtain ⟨⟨_, hp⟩, hnone⟩ := FileTree.folder_of_absent hstart (find_iff.mp hf).2
      have hcontents : f.contents path = [] := by
        simp [contents, read, resolve, hf, Except.toOption]
      have hkeeps := FileTree.keeps_set_absent (some (.file new)) hp hnone
      rw [hcontents, List.nil_append]
      exact ⟨working_set hw hkeeps, read_set hf hkeeps⟩
    | present place =>
      cases hg : f.root.get? place with
      | none => simp [hg] at h
      | some x =>
        cases x with
        | locked | folder | link => simp [hg] at h
        | file old =>
          simp only [hg] at h
          cases h
          have hcontents : f.contents path = old :=
            contents_of_read (read_iff.mpr (resolve_iff.mpr ⟨place, hf, hg⟩))
          have hkeeps := FileTree.keeps_set_file (some (.file (old ++ new))) hg rfl
          rw [hcontents]
          exact ⟨working_set hw hkeeps, read_set hf hkeeps⟩

theorem append_of_read (h : f.read path = .ok bs) : ∃ f', f.append path new = .ok f' := by
  obtain ⟨place, hf, hg⟩ := resolve_iff.mp (read_iff.mp h)
  exact ⟨f.set (some (.file (bs ++ new))) place, by simp [append, hf, hg]⟩

theorem find_of_read (h : f.read path = .ok bs) : ∃ found, f.find path = .ok found := by
  obtain ⟨place, hf, -⟩ := resolve_iff.mp (read_iff.mp h)
  exact ⟨_, hf⟩

/-- A path that is a name leads to an entry of the folder in which the program works. -/
theorem find_name (hn : FilePath.IsName name)
    (hw : Walks f.root true maxLinks f.here [name] found) : f.find name = .ok found := by
  have hstart : start f.here name = f.here := by simp [start, FilePath.isAbsolute_name hn]
  rw [find_iff, hstart, FilePath.steps_of_name hn]
  exact ⟨hn.nonempty, hw⟩

/-- An entry is found from its folder on. -/
theorem find_join (hplace : f.find folder = .ok (.present place))
    (hfolder : f.root.get? place = some (.folder entries)) (hn : FilePath.IsName name)
    (hw : ∀ links, Walks f.root true links place [name] found) :
    f.find (folder.join name) = .ok found := by
  obtain ⟨hne, hwalk⟩ := find_iff.mp hplace
  obtain ⟨way, hway, hsteps⟩ := FilePath.steps_join hne hn
  have hstart : start f.here (folder.join name) = start f.here folder := by
    rw [start, start, FilePath.isAbsolute_join hne hn]
  have hjoin : (folder.join name).bytes ≠ [] := by
    intro hempty
    have hstay : steps (folder.join name) = [.stay] := congrArg (fun bs => steps ⟨bs⟩) hempty
    have hlast := congrArg List.getLast? hsteps
    rw [hstay, List.getLast?_concat] at hlast
    exact hn.plain.1 (Option.some.inj hlast).symm
  rw [find_iff, hstart, hsteps]
  refine ⟨hjoin, ?_⟩
  have hthere := FileTree.walks_append hwalk hfolder hw
  rcases hway with hway | hway
  · rwa [hway] at hthere
  · rw [hway, List.append_assoc, List.cons_append, List.nil_append] at hthere
    rw [← FileTree.walks_iff] at hthere ⊢
    rwa [FileTree.walk_dot_before (by simp)] at hthere

theorem get?_entry (name : FilePath) (hfolder : f.root.get? place = some (.folder entries)) :
    f.root.get? (place ++ [name]) = entries.lookup name := by
  rw [FileTree.get?_append, hfolder]
  cases hl : entries.lookup name <;> simp [FileTree.get?_cons, hl]

theorem resolve_join (hplace : f.find folder = .ok (.present place))
    (hfolder : f.root.get? place = some (.folder entries)) (hn : FilePath.IsName name)
    (hl : ∀ target, entries.lookup name ≠ some (.link target)) :
    f.resolve (folder.join name) =
      match entries.lookup name with
      | some x => .ok x
      | none => .error .notFound := by
  have hentry := get?_entry name hfolder
  cases hx : entries.lookup name with
  | none =>
    have hfind := find_join hplace hfolder hn (fun links => .absent hn.plain (hentry.trans hx))
    simp [resolve, hfind]
  | some x =>
    rw [hx] at hl hentry
    have hlink : ∀ target, x ≠ .link target := fun target hx => hl target (congrArg some hx)
    have hfind := find_join hplace hfolder hn
      (fun links => FileTree.walks_last hn.plain hentry hlink)
    simp [resolve, hfind, hentry]

/-- A folder whose entry is set, where there was a file or nothing, is found as before. -/
theorem resolve_set_entry (changed : Option FileTree)
    (hplace : f.find folder = .ok (.present place))
    (hfolder : f.root.get? place = some (.folder entries))
    (hx : ∀ x, entries.lookup name = some x → x.isFile) :
    (f.set changed (place ++ [name])).find folder = .ok (.present place) ∧
      (f.set changed (place ++ [name])).root.get? place =
        some (.folder (FileTree.setEntry name changed entries)) := by
  obtain ⟨hne, hwalk⟩ := find_iff.mp hplace
  have hentry := get?_entry name hfolder
  have hset : (f.root.set changed (place ++ [name])).get? place =
      some (.folder (FileTree.setEntry name changed entries)) := FileTree.get?_set_entry hfolder
  have hkeeps : FileTree.Keeps f.root (f.root.set changed (place ++ [name])) := by
    cases hl : entries.lookup name with
    | none => exact FileTree.keeps_set_absent _ hfolder (hentry.trans hl)
    | some x => exact FileTree.keeps_set_file _ (hentry.trans hl) (hx x hl)
  have hthere := FileTree.walks_keeps hkeeps hwalk hset nofun
  exact ⟨find_iff.mpr ⟨hne, hthere⟩, hset⟩

end LinkShot.Files
