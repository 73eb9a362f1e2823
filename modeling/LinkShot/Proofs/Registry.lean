import LinkShot.Proofs.Files
import LinkShot.Registry
import Mathlib.Data.List.Forall2

/-!
The providers of a folder: what each definition file gives, in the order of the file names, whatever
the order in which the folder lists them and whatever the other files hold.
-/
namespace LinkShot.Registry

variable {files files' : Files} {folder name path : FilePath} {names names' paths : List FilePath}
  {word : String} {b letter : UInt8} {bs letters contents : Text.Bytes} {p : Provider}
  {r : Registry}

/-- What a definition file has to give by what reading it gives: a provider, or the reason why there
is none. -/
inductive Gives (path : FilePath) :
    Except FileTree.Error Text.Bytes → Except Skipped Provider → Prop
  | provider {contents : Text.Bytes} {text p} (ht : Text.decode? contents = some text)
      (hp : Provider.parse contents = .ok p) :
      Gives path (.ok contents) (.ok { p with source := some path })
  | rejected {contents : Text.Bytes} {text e} (ht : Text.decode? contents = some text)
      (hp : Provider.parse contents = .error e) : Gives path (.ok contents) (.error ⟨path, e⟩)
  | binary {contents : Text.Bytes} (ht : Text.decode? contents = none) :
      Gives path (.ok contents) (.error ⟨path, .io "stream did not contain valid UTF-8"⟩)
  | unread {e : FileTree.Error} : Gives path (.error e) (.error ⟨path, .io e.text⟩)

/-- A byte is a letter in lower or in upper case. -/
def Spells (b letter : UInt8) : Prop := b = letter ∨ b + 0x20 = letter

/-- A file of the folder, perhaps a locked one, whose extension is `json` in letters of either
case. -/
def IsDefinition (files : Files) (folder name : FilePath) : Prop :=
  (∃ stem ending, stem ≠ [] ∧ name.bytes = stem ++ FilePath.dot :: ending ∧
    List.Forall₂ Spells ending (Text.encode "json")) ∧
  ((∃ contents, files.read (folder.join name) = .ok contents) ∨
    files.read (folder.join name) = .error .denied)

/-- The fault of a file that gave no provider. -/
def fault? : Except Skipped Provider → Option Skipped
  | .ok _ => none
  | .error skipped => some skipped

/-- Two states of the files between which only the file of this name in the folder has changed. -/
structure SameBut (name folder : FilePath) (files files' : Files)
    (names names' : List FilePath) : Prop where
  listed : (names.filter (· ≠ name)).Perm (names'.filter (· ≠ name))
  reads : ∀ other ∈ names, other ≠ name →
    files.read (folder.join other) = files'.read (folder.join other)

def outcome (files : Files) (path : FilePath) : Except Skipped Provider :=
  (loadFile files path).mapError (⟨path, ·⟩)

def ofOutcomes (results : List (Except Skipped Provider)) : Registry :=
  ⟨results.filterMap Except.toOption, results.filterMap fault?⟩

/-- A registry with what one more file has given, before the others. -/
def add (r : Registry) : Except Skipped Provider → Registry
  | .ok p => { r with providers := p :: r.providers }
  | .error skipped => { r with skipped := skipped :: r.skipped }

/-- The registry of these files of a folder. -/
def ofNames (files : Files) (folder : FilePath) (names : List FilePath) : Registry :=
  ofOutcomes (names.map fun name => outcome files (folder.join name))

/-- A registry without what one file has given. -/
def without (r : Registry) (path : FilePath) : Registry where
  providers := r.providers.filter (·.source ≠ some path)
  skipped := r.skipped.filter (·.path ≠ path)

theorem lowerByte_iff (hl : 0x61 ≤ letter) (hh : letter ≤ 0x7A) :
    lowerByte b = letter ↔ Spells b letter := by
  simp only [lowerByte, Spells, Bool.and_eq_true, decide_eq_true_eq, UInt8.le_iff_toNat_le,
    ← UInt8.toNat_inj, UInt8.toNat_add] at *
  have hb := b.toNat_lt
  split <;> simp only [UInt8.toNat_add, UInt8.reduceToNat, Nat.reducePow] at * <;> omega

theorem map_lowerByte_iff (hl : ∀ letter ∈ letters, 0x61 ≤ letter ∧ letter ≤ 0x7A) :
    bs.map lowerByte = letters ↔ List.Forall₂ Spells bs letters := by
  induction letters generalizing bs with
  | nil => simp
  | cons letter letters ih =>
    obtain ⟨hletter, hl⟩ := List.forall_mem_cons.mp hl
    cases bs with
    | nil => simp
    | cons b bs =>
      rw [List.map_cons, List.cons.injEq, lowerByte_iff hletter.1 hletter.2, ih hl,
        List.forall₂_cons]

theorem isDefinitionName_iff : isDefinitionName name = true ↔
    ∃ stem ending, stem ≠ [] ∧ name.bytes = stem ++ FilePath.dot :: ending ∧
      List.Forall₂ Spells ending (Text.encode "json") := by
  have hspelled (ending : Text.Bytes) : ending.map lowerByte = Text.encode "json" ↔
      List.Forall₂ Spells ending (Text.encode "json") := map_lowerByte_iff (by decide +kernel)
  unfold isDefinitionName
  constructor
  · intro h
    cases he : name.extension? with
    | none => simp [he] at h
    | some ending =>
      obtain ⟨-, -, stem, hstem, hname⟩ := FilePath.extension?_iff.mp he
      rw [he] at h
      exact ⟨stem, ending, hstem, hname, (hspelled ending).mp (beq_iff_eq.mp h)⟩
  · rintro ⟨stem, ending, hstem, hname, hending⟩
    have hlower := (hspelled ending).mpr hending
    have hfree : FilePath.dot ∉ ending := by
      intro hdot
      have hmem := List.mem_map_of_mem (f := lowerByte) hdot
      rw [hlower] at hmem
      revert hmem
      decide
    have hdots : name ≠ .up := by
      rintro rfl
      have hlength : ending.length = 4 := hending.length_eq
      have htotal : 2 = stem.length + (ending.length + 1) := by
        simpa [FilePath.up] using congrArg List.length hname
      omega
    have he := FilePath.extension?_iff.mpr ⟨hdots, hfree, stem, hstem, hname⟩
    simp [he, hlower]

theorem isDefinition_iff : IsDefinition files folder name ↔
    (isDefinitionName name && files.isFile (folder.join name)) = true := by
  rw [Bool.and_eq_true, isDefinitionName_iff, Files.isFile_iff]
  rfl

instance (files : Files) (folder : FilePath) : DecidablePred (IsDefinition files folder) :=
  fun _ => decidable_of_iff' _ isDefinition_iff

/-- The names of the definition files of a folder, in order. -/
def definitions (files : Files) (folder : FilePath) (names : List FilePath) : List FilePath :=
  (names.filter fun name => isDefinitionName name && files.isFile (folder.join name)).mergeSort
    fun a b => decide (a.bytes ≤ b.bytes)

theorem ofOutcomes_cons (result : Except Skipped Provider) (rest : List (Except Skipped Provider)) :
    ofOutcomes (result :: rest) = (ofOutcomes rest).add result := by
  cases result <;> rfl

theorem loadFiles_eq : loadFiles files paths = ofOutcomes (paths.map (outcome files)) := by
  induction paths with
  | nil => rfl
  | cons path paths ih =>
    rw [loadFiles, ih, List.map_cons, ofOutcomes_cons, outcome]
    cases loadFile files path <;> rfl

theorem load_of_list (hl : files.list folder = .ok names) :
    load files folder = .ok (ofNames files folder (definitions files folder names)) := by
  have hthere : files.exists? folder = true := by
    obtain ⟨entries, hresolve, -⟩ := Files.list_iff.mp hl
    simp [Files.exists?, hresolve, Except.toBool]
  simp only [load, hthere, hl, if_true, loadFiles_eq, definitionPaths, List.map_map]
  rfl

theorem definitions_perm (files : Files) (folder : FilePath) (names : List FilePath) :
    (definitions files folder names).Perm (names.filter (IsDefinition files folder ·)) := by
  have hfilter : names.filter (IsDefinition files folder ·) = names.filter fun name =>
      isDefinitionName name && files.isFile (folder.join name) :=
    List.filter_congr fun name _ => by simp [isDefinition_iff]
  rw [hfilter]
  exact List.mergeSort_perm _ _

theorem definitions_sorted :
    (definitions files folder names).Pairwise (fun a b => a.bytes ≤ b.bytes) := by
  have htrans (a b c : FilePath) (hab : decide (a.bytes ≤ b.bytes) = true)
      (hbc : decide (b.bytes ≤ c.bytes) = true) : decide (a.bytes ≤ c.bytes) = true :=
    decide_eq_true (List.le_trans (of_decide_eq_true hab) (of_decide_eq_true hbc))
  have htotal (a b : FilePath) :
      (decide (a.bytes ≤ b.bytes) || decide (b.bytes ≤ a.bytes)) = true := by
    simpa using List.le_total a.bytes b.bytes
  exact (List.pairwise_mergeSort htrans htotal _).imp of_decide_eq_true

/-- Sorted lists of the same names are the same. -/
theorem sorted_unique {ds ds' : List FilePath} (hd : ds.Pairwise (fun a b => a.bytes ≤ b.bytes))
    (hd' : ds'.Pairwise (fun a b => a.bytes ≤ b.bytes)) (hp : ds.Perm ds') : ds = ds' :=
  hp.eq_of_pairwise (fun _ _ _ _ hab hba => congrArg FilePath.mk (List.le_antisymm hab hba)) hd hd'

theorem definitions_filter (q : FilePath → Bool) : (definitions files folder names).filter q =
    definitions files folder (names.filter q) := by
  apply sorted_unique (definitions_sorted.filter q) definitions_sorted
  have hwhole := (definitions_perm files folder names).filter q
  have hpart := definitions_perm files folder (names.filter q)
  rw [List.filter_comm] at hwhole
  exact hwhole.trans hpart.symm

theorem definitions_congr (hn : names.Perm names')
    (hr : ∀ name ∈ names, files.read (folder.join name) =
      files'.read (folder.join name)) :
    definitions files folder names = definitions files' folder names' := by
  apply sorted_unique definitions_sorted definitions_sorted
  have hsame : names.filter (IsDefinition files folder ·) =
      names.filter (IsDefinition files' folder ·) :=
    List.filter_congr fun name hname => by
      rw [decide_eq_decide, IsDefinition, IsDefinition, hr name hname]
  have hleft := definitions_perm files folder names
  have hright := definitions_perm files' folder names'
  rw [hsame] at hleft
  exact hleft.trans ((hn.filter _).trans hright.symm)

theorem outcome_congr (hr : files.read path = files'.read path) :
    outcome files path = outcome files' path := by
  rw [outcome, outcome, loadFile, loadFile, hr]

theorem ofNames_congr (hr : ∀ name ∈ names, files.read (folder.join name) =
      files'.read (folder.join name)) :
    ofNames files folder names = ofNames files' folder names := by
  rw [ofNames, ofNames, List.map_congr_left fun name hn => outcome_congr (hr name hn)]

theorem gives_outcome (files : Files) (path : FilePath) :
    Gives path (files.read path) (outcome files path) := by
  rw [outcome, loadFile]
  cases files.read path with
  | error e => exact .unread
  | ok contents =>
    dsimp only
    cases ht : Text.decode? contents with
    | none =>
      rw [parseFile, ht]
      exact .binary ht
    | some text =>
      cases hp : Provider.parse contents with
      | ok p =>
        rw [parseFile, ht, hp]
        exact .provider ht hp
      | error e =>
        rw [parseFile, ht, hp]
        exact .rejected ht hp

theorem source_of_outcome (h : outcome files path = .ok p) : p.source = some path := by
  have hgives := gives_outcome files path
  rw [h] at hgives
  generalize files.read path = contents at hgives
  cases hgives
  rfl

theorem path_of_outcome {skipped : Skipped} (h : outcome files path = .error skipped) :
    skipped.path = path := by
  unfold outcome at h
  cases hl : loadFile files path <;> rw [hl] at h <;> cases h
  rfl

theorem without_add {source : FilePath} : (r.add (outcome files source)).without path =
    if source = path then r.without path else (r.without path).add (outcome files source) := by
  cases ho : outcome files source with
  | ok p =>
    have hsource := source_of_outcome ho
    by_cases hp : source = path <;> simp [add, without, hsource, hp]
  | error skipped =>
    have hpath := path_of_outcome ho
    by_cases hp : source = path <;> simp [add, without, hpath, hp]

theorem ofNames_without : (ofNames files folder names).without path =
    ofNames files folder (names.filter (folder.join · ≠ path)) := by
  induction names with
  | nil => rfl
  | cons name names ih =>
    rw [ofNames] at ih ⊢
    rw [List.map_cons, ofOutcomes_cons, without_add, ih]
    by_cases hp : folder.join name = path
    · rw [if_pos hp, List.filter_cons_of_neg (by simp [hp])]
    · rw [if_neg hp, List.filter_cons_of_pos (by simp [hp]), ofNames, ofNames, List.map_cons,
        ofOutcomes_cons]

theorem find?_iff : r.find? word = some p ↔
    ∃ before after, r.providers = before ++ p :: after ∧ p.name = word ∧
      ∀ q ∈ before, q.name ≠ word := by
  rw [find?, List.find?_eq_some_iff_append]
  constructor
  · rintro ⟨hp, before, after, hr, hb⟩
    exact ⟨before, after, hr, by simpa using hp, by simpa using hb⟩
  · rintro ⟨before, after, hr, hp, hb⟩
    exact ⟨by simpa using hp, before, after, hr, by simpa using hb⟩

theorem load_sameBut (hl : files.list folder = .ok names) (hl' : files'.list folder = .ok names')
    (hs : SameBut name folder files files' names names') :
    ∃ r r', load files folder = .ok r ∧ load files' folder = .ok r' ∧
      r'.without (folder.join name) = r.without (folder.join name) := by
  refine ⟨_, _, load_of_list hl, load_of_list hl', ?_⟩
  have hreads : ∀ other ∈ names.filter (· ≠ name),
      files.read (folder.join other) = files'.read (folder.join other) := by
    intro other ho
    obtain ⟨hmem, hne⟩ := List.mem_filter.mp ho
    exact hs.reads other hmem (of_decide_eq_true hne)
  have hothers : (definitions files folder names).filter (· ≠ name) =
      (definitions files' folder names').filter (· ≠ name) := by
    rw [definitions_filter, definitions_filter]
    exact definitions_congr hs.listed hreads
  -- whatever has another path has another name
  have hpaths (listed : List FilePath) :
      listed.filter (folder.join · ≠ folder.join name) =
        (listed.filter (· ≠ name)).filter (folder.join · ≠ folder.join name) := by
    rw [List.filter_filter]
    refine List.filter_congr fun other _ => ?_
    by_cases hname : other = name <;> simp [hname]
  rw [ofNames_without, ofNames_without, hpaths (definitions files folder names),
    hpaths (definitions files' folder names'), ← hothers]
  refine (ofNames_congr fun other ho => ?_).symm
  apply hreads
  rw [definitions_filter] at ho
  have hmem := (definitions_perm files folder _).subset (List.mem_filter.mp ho).1
  exact (List.mem_filter.mp hmem).1

/-- Setting one file of a folder without links changes what that file gives, and nothing else. -/
theorem load_set_entry {place : List FilePath} {entries : List (FilePath × FileTree)}
    {changed : Option FileTree} (hplace : files.find folder = .ok (.present place))
    (hfolder : files.root.get? place = some (.folder entries))
    (hn : ∀ entry ∈ entries, FilePath.IsName entry.1)
    (hlinks : ∀ other target, entries.lookup other ≠ some (.link target))
    (hx : ∀ x, entries.lookup name = some x → x.isFile) :
    ∃ r r', load files folder = .ok r ∧ load (files.set changed (place ++ [name])) folder = .ok r' ∧
      r'.without (folder.join name) = r.without (folder.join name) := by
  obtain ⟨hplace', hfolder'⟩ := Files.resolve_set_entry changed hplace hfolder hx
  have hl := Files.list_iff.mpr ⟨entries, Files.resolve_iff.mpr ⟨place, hplace, hfolder⟩, rfl⟩
  have hl' := Files.list_iff.mpr ⟨_, Files.resolve_iff.mpr ⟨place, hplace', hfolder'⟩, rfl⟩
  apply load_sameBut hl hl'
  constructor
  · rw [FileTree.names_setEntry]
  · intro other ho hne
    obtain ⟨entry, hentry, rfl⟩ := List.mem_map.mp ho
    have hsame : (FileTree.setEntry name changed entries).lookup entry.1 = entries.lookup entry.1 :=
      FileTree.lookup_setEntry_other hne
    apply Files.read_congr
    rw [Files.resolve_join hplace hfolder (hn entry hentry) (hlinks _),
      Files.resolve_join hplace' hfolder' (hn entry hentry) (by rw [hsame]; exact hlinks _), hsame]

/-- The registry of a folder: one result for each definition file, a provider or a fault, in the
byte order of the names. A file that cannot be read gives the reason. It is the same for every order
in which the folder lists its names, and a file that is changed, broken or deleted takes nothing but
its own result with it. A name finds its first provider. A folder that is missing has no providers;
one that cannot be listed is an error. -/
theorem load_folder (files : Files) (folder : FilePath) :
    (files.exists? folder = false → load files folder = .ok .empty) ∧
    (∀ e, files.exists? folder = true → files.list folder = .error e →
      load files folder = .error (.io e.text)) ∧
    ∀ names, files.list folder = .ok names →
      ∃ listed results r, load files folder = .ok r ∧
        listed.Perm (names.filter (IsDefinition files folder ·)) ∧
        listed.Pairwise (fun a b => a.bytes ≤ b.bytes) ∧
        List.Forall₂ (fun name result =>
          Gives (folder.join name) (files.read (folder.join name)) result) listed results ∧
        r.providers = results.filterMap Except.toOption ∧ r.skipped = results.filterMap fault? ∧
        (∀ name p, r.find? name = some p ↔
          ∃ before after, r.providers = before ++ p :: after ∧ p.name = name ∧
            ∀ q ∈ before, q.name ≠ name) ∧
        (∀ name, r.find? name = none ↔ ∀ p ∈ r.providers, p.name ≠ name) ∧
        (∀ files' names', files'.list folder = .ok names' → names.Perm names' →
          (∀ name ∈ names, files.read (folder.join name) =
            files'.read (folder.join name)) →
          load files' folder = .ok r) ∧
        ∀ files' names' name, files'.list folder = .ok names' →
          SameBut name folder files files' names names' →
          ∃ r', load files' folder = .ok r' ∧
            r'.without (folder.join name) = r.without (folder.join name) := by
  refine ⟨?_, ?_, ?_⟩
  · intro hmissing
    simp [load, hmissing]
  · intro e hthere hl
    simp [load, hthere, hl]
  · intro names hl
    have hload := load_of_list hl
    refine ⟨_, _, _, hload, definitions_perm files folder names, definitions_sorted, ?_, rfl, rfl,
      fun _ _ => find?_iff, ?_, ?_, ?_⟩
    · rw [List.forall₂_map_right_iff, List.forall₂_same]
      exact fun name _ => gives_outcome files (folder.join name)
    · intro name
      simp [find?]
    · intro files' names' hl' hp hr
      rw [load_of_list hl', ← definitions_congr hp hr, ofNames_congr]
      intro name hmem
      have hname := (definitions_perm files folder names).subset hmem
      exact (hr name (List.mem_filter.mp hname).1).symm
    · intro files' names' name hl' hs
      obtain ⟨r, r', hr, hr', hsame⟩ := load_sameBut hl hl' hs
      rw [hload] at hr
      cases hr
      exact ⟨r', hr', hsame⟩

/-- A name that is no text. -/
def rawName : FilePath := ⟨0xFF :: Text.encode ".json"⟩

def mixedNames : List FilePath := ["b.JSON", rawName, "a.json", "notes.txt"]

/-- A tool, a locked file, a file that is no text, and a file that defines nothing. -/
def mixedEntries : List (FilePath × FileTree) :=
  [("b.JSON", .file (Text.encode
      "\x7b\"Name\": \"A\", \"RequestType\": \"GET\", \"RequestURL\": \"https://a.test\"\x7d")),
    (rawName, .locked), ("a.json", .file [0xFF]), ("notes.txt", .file [])]

def mixed : Files := ⟨.folder [("p", .folder mixedEntries)], []⟩

/-- The provider of the tool. -/
def mixedTool : Provider :=
  ⟨"A", .get, "https://a.test", none, false, false, .empty, .empty, [], none, some "p/b.JSON"⟩

theorem find_mixed : mixed.find "p" = .ok (.present ["p"]) :=
  Files.find_name (by decide) (.enter (by decide) rfl .arrive)

theorem list_mixed : mixed.list "p" = .ok mixedNames :=
  Files.list_iff.mpr ⟨mixedEntries, Files.resolve_iff.mpr ⟨["p"], find_mixed, rfl⟩, rfl⟩

theorem resolve_mixed {x : FileTree} (hn : name.IsName) (hx : mixedEntries.lookup name = some x)
    (hl : x.isFile) : mixed.resolve (FilePath.join "p" name) = .ok x := by
  have hlinks : ∀ target, mixedEntries.lookup name ≠ some (.link target) := by
    rintro target hlink
    cases hx.symm.trans hlink
    cases hl
  rw [Files.resolve_join find_mixed rfl hn hlinks, hx]

theorem read_mixed (hn : name.IsName) (hc : mixedEntries.lookup name = some (.file contents)) :
    mixed.read (FilePath.join "p" name) = .ok contents :=
  Files.read_iff.mpr (resolve_mixed hn hc rfl)

theorem denied_mixed : mixed.read (FilePath.join "p" rawName) = .error .denied :=
  Files.denied_iff.mpr (resolve_mixed (by decide) rfl rfl)

/-- The definition files of the folder, in order. -/
def mixedDefinitions : List FilePath := ["a.json", "b.JSON", rawName]

theorem definitions_mixed : definitions mixed "p" mixedNames = mixedDefinitions := by
  have htool : mixed.isFile (FilePath.join "p" "b.JSON") = true :=
    Files.isFile_iff.mpr (.inl ⟨_, read_mixed (by decide) rfl⟩)
  have hbinary : mixed.isFile (FilePath.join "p" "a.json") = true :=
    Files.isFile_iff.mpr (.inl ⟨_, read_mixed (by decide) rfl⟩)
  have hlocked : mixed.isFile (FilePath.join "p" rawName) = true :=
    Files.isFile_iff.mpr (.inr denied_mixed)
  have hchosen : (mixedNames.filter fun name =>
      isDefinitionName name && mixed.isFile (FilePath.join "p" name)) =
        (["b.JSON", rawName, "a.json"] : List FilePath) := by
    have htool' : isDefinitionName "b.JSON" = true := by decide
    have hlocked' : isDefinitionName rawName = true := by decide
    have hbinary' : isDefinitionName "a.json" = true := by decide
    have htext : isDefinitionName "notes.txt" = false := by decide
    simp [mixedNames, htool, hbinary, hlocked, htool', hlocked', hbinary', htext]
  apply sorted_unique definitions_sorted (by decide)
  rw [definitions, hchosen]
  exact (List.mergeSort_perm _ _).trans (by decide)

def mixedRegistry : Registry where
  providers := [mixedTool]
  skipped := [⟨"p/a.json", .io "stream did not contain valid UTF-8"⟩,
    ⟨FilePath.join "p" rawName, .io "Permission denied (os error 13)"⟩]

theorem load_mixed : load mixed "p" = .ok mixedRegistry := by
  have htool : outcome mixed (FilePath.join "p" "b.JSON") = .ok mixedTool := by
    rw [outcome, loadFile, read_mixed (by decide) rfl]
    decide +kernel
  have hbinary : outcome mixed (FilePath.join "p" "a.json") =
      .error ⟨"p/a.json", .io "stream did not contain valid UTF-8"⟩ := by
    rw [outcome, loadFile, read_mixed (by decide) rfl]
    decide +kernel
  have hlocked : outcome mixed (FilePath.join "p" rawName) =
      .error ⟨FilePath.join "p" rawName, .io "Permission denied (os error 13)"⟩ := by
    rw [outcome, loadFile, denied_mixed]
    rfl
  rw [load_of_list list_mixed, definitions_mixed, mixedDefinitions, ofNames, List.map_cons,
    List.map_cons, List.map_cons, htool, hbinary, hlocked]
  rfl

theorem load_folder_mixed : mixed.list "p" = .ok mixedNames ∧
    ∃ r, load mixed "p" = .ok r ∧ r.find? "A" = some mixedTool := by
  obtain ⟨_, _, r, hr, _, _, _, _, _, hfind, -⟩ := (load_folder mixed "p").2.2 _ list_mixed
  refine ⟨list_mixed, r, hr, ?_⟩
  rw [load_mixed] at hr
  cases hr
  exact (hfind "A" mixedTool).mpr ⟨[], [], rfl, rfl, nofun⟩

end LinkShot.Registry
