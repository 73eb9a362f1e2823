import LinkShot.FileTree
import Mathlib.Data.List.Basic

/-!
What setting a place of a tree changes, and which walks notice: one that arrives has looked at
folders and links only, and at the place where it arrives.
-/
namespace LinkShot.FileTree

/-- Trees that a walk goes through alike. -/
inductive Alike : FileTree → FileTree → Prop
  | folder {entries entries'} : Alike (.folder entries) (.folder entries')
  | link {target} : Alike (.link target) (.link target)

/-- The folders and links of one tree stand in the other one, too. -/
def Keeps (t t' : FileTree) : Prop :=
  ∀ q x, t.get? q = some x → x.isFile = false → ∃ y, t'.get? q = some y ∧ Alike x y

/-- A name that leads into a folder. -/
def Plain (name : FilePath) : Prop := name ≠ .stay ∧ name ≠ .up

instance (name : FilePath) : Decidable (Plain name) := inferInstanceAs (Decidable (_ ∧ _))

/-- A walk that does not fail, step by step. -/
inductive Walks (t : FileTree) (follow : Bool) : Nat → List FilePath → List FilePath → Found → Prop
  | arrive {links here} : Walks t follow links here [] (.present here)
  | dot {links here rest found} (hw : Walks t follow links here rest found) :
      Walks t follow links here (.stay :: rest) found
  | up {links here rest found} (hw : Walks t follow links here.dropLast rest found) :
      Walks t follow links here (.up :: rest) found
  | absent {links here name} (hn : Plain name) (hg : t.get? (here ++ [name]) = none) :
      Walks t follow links here [name] (.absent here name)
  | enter {links here name rest entries found} (hn : Plain name)
      (hg : t.get? (here ++ [name]) = some (.folder entries))
      (hw : Walks t follow links (here ++ [name]) rest found) :
      Walks t follow links here (name :: rest) found
  | file {links here name x} (hn : Plain name) (hg : t.get? (here ++ [name]) = some x)
      (hx : x.isFile) :
      Walks t follow links here [name] (.present (here ++ [name]))
  | stay {links here name target} (hn : Plain name)
      (hg : t.get? (here ++ [name]) = some (.link target)) (hf : follow = false) :
      Walks t follow links here [name] (.present (here ++ [name]))
  | follow {links here name rest target found} (hn : Plain name)
      (hg : t.get? (here ++ [name]) = some (.link target)) (hf : rest = [] → follow = true)
      (ht : target.bytes ≠ [])
      (hw : Walks t follow links (start here target) (steps target ++ rest) found) :
      Walks t follow (links + 1) here (name :: rest) found

/-- The place that a walk asks for. -/
def Found.place : Found → List FilePath
  | .present place => place
  | .absent parent name => parent ++ [name]

variable {t t' x : FileTree} {entries : List (FilePath × FileTree)} {name other : FilePath}
  {new : Option FileTree} {place here p q rest path done tail : List FilePath} {follow : Bool}
  {links : Nat} {found : Found}

@[simp] theorem entries_folder : (folder entries).entries = entries := rfl

@[simp] theorem get?_nil : t.get? [] = some t := rfl

theorem get?_cons : t.get? (name :: rest) = (t.entries.lookup name).bind (·.get? rest) := rfl

theorem lookup_setEntry_self : (setEntry name (some x) entries).lookup name = some x := by
  have hnone : (entries.filter (·.1 ≠ name)).lookup name = none := by
    rw [List.lookup_eq_none_iff]
    intro entry he
    have hne := of_decide_eq_true (List.mem_filter.mp he).2
    simpa using Ne.symm hne
  rw [setEntry, List.lookup_append, hnone]
  simp

theorem lookup_setEntry_other (h : other ≠ name) :
    (setEntry name new entries).lookup other = entries.lookup other := by
  have hfilter : (entries.filter (·.1 ≠ name)).lookup other = entries.lookup other := by
    induction entries with
    | nil => rfl
    | cons entry entries ih =>
      by_cases hn : entry.1 = name
      · have ho : (other == entry.1) = false := beq_false_of_ne fun ho => h (ho.trans hn)
        rw [List.filter_cons_of_neg (by simp [hn]), ih, List.lookup_cons, ho]
      · rw [List.filter_cons_of_pos (by simp [hn]), List.lookup_cons, List.lookup_cons, ih]
  cases new with
  | none => exact hfilter
  | some tree =>
    have ho : (other == name) = false := beq_false_of_ne h
    rw [setEntry, List.lookup_append, hfilter]
    simp [List.lookup_cons, ho]

theorem names_setEntry : ((setEntry name new entries).map (·.1)).filter (· ≠ name) =
    (entries.map (·.1)).filter (· ≠ name) := by
  have hothers : ((entries.filter (·.1 ≠ name)).map (·.1)).filter (· ≠ name) =
      (entries.map (·.1)).filter (· ≠ name) := by
    rw [List.filter_map, List.filter_filter, List.filter_map]
    simp [Function.comp_def]
  cases new with
  | none => exact hothers
  | some tree =>
    rw [setEntry, List.map_append, List.filter_append, hothers]
    simp

theorem get?_append : t.get? (p ++ q) = (t.get? p).bind (·.get? q) := by
  induction p generalizing t with
  | nil => rfl
  | cons name p ih =>
    rw [List.cons_append, get?_cons, get?_cons]
    cases t.entries.lookup name with
    | none => rfl
    | some below => exact ih

/-- Only folders have something below them. -/
theorem folder_above (h : t.get? (p ++ name :: rest) = some x) :
    ∃ entries, t.get? p = some (.folder entries) := by
  rw [get?_append] at h
  cases hp : t.get? p with
  | none => simp [hp] at h
  | some above =>
    cases above with
    | folder entries => exact ⟨entries, rfl⟩
    | file | locked | link => simp [hp, get?_cons, FileTree.entries] at h

theorem get?_set_self : (t.set (some x) place).get? place = some x := by
  fun_induction set t (some x) place with
  | case1 => rfl
  | case2 t name => simp [get?_cons, lookup_setEntry_self]
  | case3 t name place hne ih => simpa [get?_cons, lookup_setEntry_self] using ih

theorem folder_set (t : FileTree) (new : Option FileTree) (h : place ≠ []) :
    ∃ entries, t.set new place = .folder entries := by
  fun_cases set t new place with
  | case1 => exact absurd rfl h
  | case2 | case3 => exact ⟨_, rfl⟩

/-- Beside the place that is set nothing changes; above it there are folders afterwards. -/
theorem get?_set_beside (t : FileTree) (new : Option FileTree) (h : ¬place <+: q) :
    (t.set new place).get? q = t.get? q ∨
      q <+: place ∧ ∃ entries, (t.set new place).get? q = some (.folder entries) := by
  fun_induction set t new place generalizing q with
  | case1 => exact absurd List.nil_prefix h
  | case2 t name =>
    cases q with
    | nil => exact .inr ⟨List.nil_prefix, _, rfl⟩
    | cons other q =>
      have hne : other ≠ name := by
        rintro rfl
        exact h (List.cons_prefix_cons.mpr ⟨rfl, List.nil_prefix⟩)
      exact .inl (by simp [get?_cons, lookup_setEntry_other hne])
  | case3 t name place hplace ih =>
    cases q with
    | nil => exact .inr ⟨List.nil_prefix, _, rfl⟩
    | cons other q =>
      by_cases hne : other = name
      · subst hne
        have hq : ¬place <+: q := fun hq => h (List.cons_prefix_cons.mpr ⟨rfl, hq⟩)
        rw [get?_cons, get?_cons, entries_folder, lookup_setEntry_self, Option.bind_some]
        rcases ih hq with hsame | ⟨habove, hfolder⟩
        · cases hl : t.entries.lookup other with
          | some below =>
            rw [hl] at hsame
            exact .inl hsame
          | none =>
            rw [hl] at hsame
            -- the folder of this name is new, and nothing else is below it
            cases q with
            | nil =>
              obtain ⟨entries, hset⟩ := folder_set empty new hplace
              exact .inr ⟨List.cons_prefix_cons.mpr ⟨rfl, List.nil_prefix⟩, entries,
                congrArg some hset⟩
            | cons => exact .inl hsame
        · exact .inr ⟨List.cons_prefix_cons.mpr ⟨rfl, habove⟩, hfolder⟩
      · exact .inl (by simp [get?_cons, lookup_setEntry_other hne])

/-- A walk opens no file, so it is never denied. -/
theorem walk_ne_denied : t.walk follow links here path ≠ .error .denied := by
  fun_induction walk t follow links here path <;> first | assumption | simp

theorem walk_dot : t.walk follow links here (.stay :: rest) = t.walk follow links here rest := by
  rw [walk, if_pos rfl]

theorem walk_enter (hn : Plain name) (hg : t.get? (here ++ [name]) = some (.folder entries)) :
    t.walk follow links here (name :: rest) = t.walk follow links (here ++ [name]) rest := by
  simp [walk, hn.1, hn.2, hg]

/-- Folders on the way can as well have been entered before. -/
theorem walk_entered (hp : ∀ name ∈ p, Plain name)
    (hg : t.get? (here ++ p) = some (.folder entries)) :
    t.walk follow links here (p ++ path) = t.walk follow links (here ++ p) path := by
  induction p generalizing here entries with
  | nil => rw [List.append_nil, List.nil_append]
  | cons name p ih =>
    obtain ⟨hn, hp⟩ := List.forall_mem_cons.mp hp
    rw [List.append_cons] at hg ⊢
    have hfolder : ∃ entries, t.get? (here ++ [name]) = some (.folder entries) := by
      cases p with
      | nil => exact ⟨entries, by simpa using hg⟩
      | cons => exact folder_above hg
    obtain ⟨_, hfolder⟩ := hfolder
    rw [List.cons_append, walk_enter hn hfolder, ih hp hg]

/-- A dot changes nothing before a name. -/
theorem walk_dot_before (hr : rest ≠ []) :
    t.walk follow links here (done ++ .stay :: rest) = t.walk follow links here (done ++ rest) := by
  induction links using Nat.strongRecOn generalizing here done with
  | _ links hfewer =>
    induction done generalizing here with
    | nil => exact walk_dot
    | cons name done ih =>
      have hdot : (done ++ .stay :: rest).isEmpty = false := by simp
      have hrest : (done ++ rest).isEmpty = false := by simp [hr]
      rw [List.cons_append, List.cons_append, walk, walk, hdot, hrest]
      cases links with
      | zero => simp only [ih]
      | succ links => simp only [ih, ← List.append_assoc, hfewer links (Nat.lt_succ_self links)]

theorem walk_dots_from (done : List FilePath) (hr : rest ≠ []) :
    t.walk follow links here (done ++ (p ++ rest)) =
      t.walk follow links here (done ++ (p.filter (· ≠ .stay) ++ rest)) := by
  induction p generalizing done with
  | nil => rfl
  | cons name p ih =>
    by_cases hn : name = .stay
    · have hne : p ++ rest ≠ [] := by simp [hr]
      rw [hn, List.cons_append, walk_dot_before hne, List.filter_cons_of_neg (by simp), ih]
    · rw [List.filter_cons_of_pos (by simp [hn]), List.cons_append, List.cons_append,
        List.append_cons done name (p ++ rest), ih, List.append_cons done name (_ ++ rest)]

/-- Paths that differ in dots only lead the same way to a name. -/
theorem walk_dots (hr : rest ≠ []) : t.walk follow links here (p ++ rest) =
    t.walk follow links here (p.filter (· ≠ .stay) ++ rest) :=
  walk_dots_from [] hr

/-- An entry of a folder that is set changes the folder's list of entries. -/
theorem get?_set_entry (hp : t.get? p = some (.folder entries)) :
    (t.set new (p ++ [name])).get? p = some (.folder (setEntry name new entries)) := by
  induction p generalizing t with
  | nil =>
    cases hp
    rfl
  | cons first p ih =>
    rw [get?_cons] at hp
    obtain ⟨below, hl, hp⟩ := Option.bind_eq_some_iff.mp hp
    have hne : p ++ [name] ≠ [] := by simp
    obtain ⟨second, rest, hrest⟩ := List.exists_cons_of_ne_nil hne
    have hset := ih hp
    rw [hrest] at hset
    rw [List.cons_append, hrest, set, get?_cons, entries_folder, lookup_setEntry_self, hl]
    · exact hset
    · nofun

theorem walks_iff : t.walk follow links here path = .ok found ↔
    Walks t follow links here path found := by
  constructor
  · intro h
    fun_induction walk t follow links here path with
    | case1 => cases h; exact .arrive
    | case2 links here rest ih => exact .dot (ih h)
    | case3 links here rest _ ih => exact .up (ih h)
    | case4 links here name rest hd hu hg hr =>
      cases h
      rw [List.isEmpty_iff.mp hr]
      exact .absent ⟨hd, hu⟩ hg
    | case6 links here name rest hd hu entries hg ih => exact .enter ⟨hd, hu⟩ hg (ih h)
    | case7 links here name rest hd hu contents hg hr =>
      cases h
      rw [List.isEmpty_iff.mp hr]
      exact .file ⟨hd, hu⟩ hg rfl
    | case9 links here name rest hd hu hg hr =>
      cases h
      rw [List.isEmpty_iff.mp hr]
      exact .file ⟨hd, hu⟩ hg rfl
    | case11 links here name rest hd hu target hg hr =>
      cases h
      rw [Bool.and_eq_true, Bool.not_eq_true', List.isEmpty_iff] at hr
      rw [hr.1]
      exact .stay ⟨hd, hu⟩ hg hr.2
    | case14 here name rest hd hu target hg hr links ht ih =>
      refine .follow ⟨hd, hu⟩ hg (fun hrest => ?_) ht (ih h)
      simpa [hrest] using hr
    | case5 | case8 | case10 | case12 | case13 => cases h
  · intro h
    induction h with
    | arrive => rw [walk]
    | dot _ ih => rw [walk, if_pos rfl, ih]
    | up _ ih => rw [walk, if_neg (by decide), if_pos rfl, ih]
    | absent hn hg => simp [walk, hn.1, hn.2, hg]
    | @file links here name x hn hg hx =>
      cases x with
      | file | locked => simp [walk, hn.1, hn.2, hg]
      | folder | link => cases hx
    | enter hn hg _ ih => simp [walk, hn.1, hn.2, hg, ih]
    | stay hn hg hf => simp [walk, hn.1, hn.2, hg, hf]
    | @follow links here name rest target found hn hg hf ht _ ih =>
      have hgo : (rest.isEmpty && !follow) = false := by
        cases rest with
        | nil => simp [hf rfl]
        | cons => rfl
      simp [walk, hn.1, hn.2, hg, hgo, ht, ih]

theorem walks_last (hn : Plain name) (hx : t.get? (here ++ [name]) = some x)
    (hl : ∀ target, x ≠ .link target) :
    Walks t follow links here [name] (.present (here ++ [name])) := by
  cases x with
  | file | locked => exact .file hn hx rfl
  | folder => exact .enter hn hx .arrive
  | link target => exact absurd rfl (hl target)

/-- A walk goes the same way to a place that is there in the other tree and is no link. -/
theorem walks_keeps (hk : Keeps t t') (hw : Walks t follow links here path found)
    (hx : t'.get? found.place = some x) (hl : ∀ target, x ≠ .link target) :
    Walks t' follow links here path (.present found.place) := by
  induction hw with
  | arrive => exact .arrive
  | dot _ ih => exact .dot (ih hx)
  | up _ ih => exact .up (ih hx)
  | absent hn _ | file hn _ => exact walks_last hn hx hl
  | enter hn hg _ ih =>
    obtain ⟨y, hy, ha⟩ := hk _ _ hg rfl
    cases ha
    exact .enter hn hy (ih hx)
  | stay hn hg _ =>
    obtain ⟨y, hy, ha⟩ := hk _ _ hg rfl
    cases ha
    exact absurd (Option.some.inj (hx.symm.trans hy)) (hl _)
  | follow hn hg hf ht _ ih =>
    obtain ⟨y, hy, ha⟩ := hk _ _ hg rfl
    cases ha
    exact .follow hn hy hf ht (ih hx)

/-- On the way to a name a walk passes the folders before it. -/
theorem walks_part (hr : rest ≠ []) (hw : Walks t true links here (done ++ rest) found) :
    (∃ p, Walks t true links here (done ++ [.stay]) (.present p)) ∧
      ∃ p, Walks t false links here done (.present p) := by
  have hnil {links here} : (∃ p, Walks t true links here ([] ++ [.stay]) (.present p)) ∧
      ∃ p, Walks t false links here [] (.present p) :=
    ⟨⟨here, .dot .arrive⟩, here, .arrive⟩
  generalize hp : done ++ rest = path at hw
  induction hw generalizing done with
  | arrive => exact absurd (List.append_eq_nil_iff.mp hp).2 hr
  | dot _ ih =>
    rcases List.append_eq_cons_iff.mp hp with ⟨rfl, -⟩ | ⟨done, rfl, rfl⟩
    · exact hnil
    · obtain ⟨⟨p, hdot⟩, q, hdone⟩ := ih rfl
      exact ⟨⟨p, .dot hdot⟩, q, .dot hdone⟩
  | up _ ih =>
    rcases List.append_eq_cons_iff.mp hp with ⟨rfl, -⟩ | ⟨done, rfl, rfl⟩
    · exact hnil
    · obtain ⟨⟨p, hdot⟩, q, hdone⟩ := ih rfl
      exact ⟨⟨p, .up hdot⟩, q, .up hdone⟩
  | absent | file | stay =>
    rcases List.append_eq_cons_iff.mp hp with ⟨rfl, -⟩ | ⟨done, -, hnone⟩
    · exact hnil
    · exact absurd (List.append_eq_nil_iff.mp hnone.symm).2 hr
  | enter hn hg _ ih =>
    rcases List.append_eq_cons_iff.mp hp with ⟨rfl, -⟩ | ⟨done, rfl, rfl⟩
    · exact hnil
    · obtain ⟨⟨p, hdot⟩, q, hdone⟩ := ih rfl
      exact ⟨⟨p, .enter hn hg hdot⟩, q, .enter hn hg hdone⟩
  | @follow links here name _ target found hn hg _ ht _ ih =>
    rcases List.append_eq_cons_iff.mp hp with ⟨rfl, -⟩ | ⟨done, rfl, rfl⟩
    · exact hnil
    · obtain ⟨⟨p, hdot⟩, q, hdone⟩ := ih (List.append_assoc _ _ _)
      rw [List.append_assoc] at hdot
      refine ⟨⟨p, .follow hn hg (fun _ => rfl) ht hdot⟩, ?_⟩
      cases done with
      | nil => exact ⟨_, .stay hn hg rfl⟩
      | cons => exact ⟨q, .follow hn hg nofun ht hdone⟩

/-- A walk to a folder goes on from there. -/
theorem walks_append (hw : Walks t true links here path (.present p))
    (hp : t.get? p = some (.folder entries)) (ht : ∀ links, Walks t true links p tail found) :
    Walks t true links here (path ++ tail) found := by
  generalize harrived : Found.present p = arrived at hw
  induction hw with
  | arrive =>
    cases harrived
    exact ht _
  | dot _ ih => exact .dot (ih harrived)
  | up _ ih => exact .up (ih harrived)
  | enter hn hg _ ih => exact .enter hn hg (ih harrived)
  | follow hn hg hf ht' _ ih =>
    have hgo := ih harrived
    rw [List.append_assoc] at hgo
    exact .follow hn hg (fun _ => rfl) ht' hgo
  | file hn hg hx =>
    cases harrived
    cases hg.symm.trans hp
    cases hx
  | absent => cases harrived
  | stay _ _ hf => cases hf

theorem folder_dropLast (hg : t.get? here = some (.folder entries)) :
    ∃ entries, t.get? here.dropLast = some (.folder entries) := by
  rcases List.eq_nil_or_concat here with rfl | ⟨here, name, rfl⟩
  · exact ⟨entries, hg⟩
  · rw [List.concat_eq_append] at hg ⊢
    rw [List.dropLast_concat]
    exact folder_above hg

theorem folder_start (hg : t.get? here = some (.folder entries)) (path : FilePath) :
    ∃ entries, t.get? (start here path) = some (.folder entries) := by
  unfold start
  split
  · cases here with
    | nil => exact ⟨entries, hg⟩
    | cons => exact folder_above hg
  · exact ⟨entries, hg⟩

/-- What is missing is missing in a folder. -/
theorem folder_of_absent (hg : t.get? here = some (.folder entries))
    (hw : Walks t follow links here path (.absent p name)) :
    (∃ entries, t.get? p = some (.folder entries)) ∧ t.get? (p ++ [name]) = none := by
  generalize harrived : Found.absent p name = arrived at hw
  induction hw generalizing entries with
  | arrive | file | stay => cases harrived
  | absent hn hnone =>
    cases harrived
    exact ⟨⟨entries, hg⟩, hnone⟩
  | dot _ ih => exact ih hg harrived
  | up _ ih =>
    obtain ⟨_, hup⟩ := folder_dropLast hg
    exact ih hup harrived
  | enter _ hg' _ ih => exact ih hg' harrived
  | follow _ _ _ _ _ ih =>
    obtain ⟨_, hstart⟩ := folder_start hg _
    exact ih hstart harrived

/-- Setting a file, or a place that is missing in a folder, keeps all folders and links. -/
theorem keeps_set (habove : ∀ q, q <+: place → q ≠ place → ∀ x, t.get? q = some x →
      ∃ entries, x = .folder entries)
    (hat : ∀ x, t.get? place = some x → x.isFile) : Keeps t (t.set new place) := by
  intro q x hx hfile
  by_cases hq : place <+: q
  · obtain ⟨rest, rfl⟩ := hq
    rw [get?_append] at hx
    cases hp : t.get? place with
    | none => simp [hp] at hx
    | some y =>
      have hy := hat y hp
      rw [hp, Option.bind_some] at hx
      cases rest with
      | nil =>
        cases hx
        simp [hy] at hfile
      | cons =>
        cases y with
        | file | locked => simp [get?_cons, FileTree.entries] at hx
        | folder | link => cases hy
  · rcases get?_set_beside t new hq with hsame | ⟨hover, entries, hfolder⟩
    · refine ⟨x, hsame.trans hx, ?_⟩
      cases x with
      | folder => exact .folder
      | file | locked => cases hfile
      | link => exact .link
    · have hne : q ≠ place := by
        rintro rfl
        exact hq List.prefix_rfl
      obtain ⟨_, rfl⟩ := habove q hover hne x hx
      exact ⟨_, hfolder, .folder⟩

theorem keeps_set_file (new : Option FileTree) (hp : t.get? place = some x) (hx : x.isFile) :
    Keeps t (t.set new place) := by
  apply keeps_set
  · rintro q ⟨rest, rfl⟩ hne y hy
    cases rest with
    | nil => exact absurd (List.append_nil q).symm hne
    | cons =>
      obtain ⟨entries, hfolder⟩ := folder_above hp
      exact ⟨entries, Option.some.inj (hy.symm.trans hfolder)⟩
  · intro y hy
    rwa [← Option.some.inj (hp.symm.trans hy)]

theorem keeps_set_absent (new : Option FileTree) (hp : t.get? p = some (.folder entries))
    (hn : t.get? (p ++ [name]) = none) : Keeps t (t.set new (p ++ [name])) := by
  apply keeps_set
  · intro q hq hne x hx
    rcases List.prefix_concat_iff.mp hq with rfl | ⟨rest, rfl⟩
    · exact absurd rfl hne
    · cases rest with
      | nil =>
        rw [List.append_nil] at hp
        exact ⟨entries, Option.some.inj (hx.symm.trans hp)⟩
      | cons =>
        obtain ⟨entries, hfolder⟩ := folder_above hp
        exact ⟨entries, Option.some.inj (hx.symm.trans hfolder)⟩
  · intro x hx
    rw [hn] at hx
    cases hx

end LinkShot.FileTree
