import LinkShot.Daemon.Basic
import LinkShot.Proofs.Menu
import Mathlib.Data.List.Perm.Basic
import Mathlib.Data.Set.Function

/-!
What choosing an entry of the menu does. The entries below the submenus are the jobs of the
providers that are loaded, each provider once under each trigger that fits it; the others cancel,
reload or quit.
-/
namespace LinkShot.Menu

open LinkShot.Action (Trigger accepts)

variable {α : Type} {r : Registry} {e : Entry} {command : Command} {menu : List Item}
  {trigger trigger' : Trigger} {provider : Provider} {listed : List Provider} {none? : String}
  {position inner i j : Nat}

/-- An entry that sends a command, and does nothing else. -/
def Entry.Sends (e : Entry) (command : Command) : Prop :=
  e.enabled = true ∧
    ∀ d : Daemon, d.activate e = { d with commands := d.commands.map (· ++ [command]) }

def Entry.Quits (e : Entry) : Prop :=
  e.enabled = true ∧ ∀ d : Daemon, d.activate e = { d with quit := true }

/-- An entry that cannot be chosen and would do nothing. -/
def Entry.Idle (e : Entry) : Prop := e.enabled = false ∧ ∀ d : Daemon, d.activate e = d

/-- The entries start the listed providers one after another; if there is none, there is one idle
entry. -/
def Lists (trigger : Trigger) (listed : List Provider) (entries : List Entry) : Prop :=
  if listed = [] then ∃ e, entries = [e] ∧ e.Idle
  else List.Forall₂ (fun p e => e.label = p.name ∧ e.Sends (.run ⟨p, trigger⟩)) listed entries

/-- The submenu for a trigger: first come those of the capture modes, then the tools. -/
def submenuOf : Trigger → Nat
  | .capture mode => Capture.Mode.all.idxOf mode
  | .tool => Capture.Mode.all.length

/-- The place of a provider, told by its number, under a trigger: in the submenu of the trigger it
stands behind all providers before it that the trigger fits. -/
def placeOf (r : Registry) (asked : Nat × Trigger) : Nat × Nat :=
  (submenuOf asked.2, (r.providers.take asked.1).countP (accepts · asked.2))

/-- The numbers of the providers with the triggers that fit them. -/
def fitting (r : Registry) : Set (Nat × Trigger) :=
  {asked | ∃ p, r.providers[asked.1]? = some p ∧ Job.Fits ⟨p, asked.2⟩}

/-- The places in submenus that can be chosen. -/
def choosable (menu : List Item) : Set (Nat × Nat) :=
  {place | ∃ e, choose menu place.1 (some place.2) = .entry e ∧ e.enabled = true}

/-- A menu with all that can be asked for, and nothing else. -/
structure Offers (r : Registry) (menu : List Item) : Prop where
  captures : ∀ mode, ∃ entries,
    menu[Capture.Mode.all.idxOf mode]? = some (.submenu mode.menuLabel entries) ∧
    Lists (.capture mode) (r.providers.filter (·.isUpload)) entries
  tools : ∃ entries, menu[Capture.Mode.all.length]? = some (.submenu "Tools" entries) ∧
    Lists .tool (r.providers.filter (!·.isUpload)) entries
  once : Set.BijOn (placeOf r) (fitting r) (choosable menu)
  starts : ∀ i p trigger, r.providers[i]? = some p → Job.Fits ⟨p, trigger⟩ →
    ∃ e, choose menu (placeOf r (i, trigger)).1 (some (placeOf r (i, trigger)).2) = .entry e ∧
      e.Sends (.run ⟨p, trigger⟩)
  top : ∀ position e, choose menu position none = .entry e →
    e.Sends .cancelPending ∨ e.Sends .reload ∨ e.Quits
  cancel : ∃! position, ∃ e, choose menu position none = .entry e ∧ e.Sends .cancelPending
  reload : ∃! position, ∃ e, choose menu position none = .entry e ∧ e.Sends .reload
  quit : ∃! position, ∃ e, choose menu position none = .entry e ∧ e.Quits

/-- The groups of a registry's providers: uploads, and the tools of either method. -/
structure Grouped (r : Registry) : Prop where
  upload : r.inGroup .upload = r.providers.filter (·.isUpload)
  getTool : r.inGroup .getTool = (r.providers.filter (!·.isUpload)).filter (·.method == .get)
  postTool : r.inGroup .postTool = (r.providers.filter (!·.isUpload)).filter (·.method == .post)
  partition : (r.inGroup .upload ++ (r.inGroup .getTool ++ r.inGroup .postTool)).Perm r.providers

/-- A daemon for which nothing waits. -/
def atRest : Daemon := ⟨"", none, none, .empty, some [], false, false⟩

/-- The effect that a daemon shows which was at rest before. -/
def effectShown (d : Daemon) : Option Effect :=
  if d.quit then some .quit else (d.commands.bind (·.head?)).map .send

theorem effectShown_activate (e : Entry) : effectShown (atRest.activate e) = e.effect := by
  obtain ⟨label, icon, effect⟩ := e
  rcases effect with _ | sent | _ <;> rfl

theorem sends_iff : e.Sends command ↔ e.effect = some (.send command) := by
  constructor
  · rintro ⟨-, h⟩
    rw [← effectShown_activate, h]
    rfl
  · intro h
    exact ⟨by simp [Entry.enabled, h], fun d => by simp [Daemon.activate, Daemon.send, h]⟩

theorem quits_iff : e.Quits ↔ e.effect = some .quit := by
  constructor
  · rintro ⟨-, h⟩
    rw [← effectShown_activate, h]
    rfl
  · intro h
    exact ⟨by simp [Entry.enabled, h], fun d => by simp [Daemon.activate, h]⟩

theorem idle_of_effect (h : e.effect = none) : e.Idle :=
  ⟨by simp [Entry.enabled, h], fun d => by simp [Daemon.activate, h]⟩

theorem lists_providerEntries : Lists trigger listed (providerEntries none? trigger listed) := by
  rw [Lists, providerEntries]
  cases listed with
  | nil => exact ⟨_, rfl, idle_of_effect rfl⟩
  | cons p listed =>
    simp only [List.isEmpty_cons, Bool.false_eq_true, if_false, reduceCtorEq]
    rw [List.forall₂_map_right_iff, List.forall₂_same]
    exact fun p _ => ⟨rfl, sends_iff.mpr rfl⟩

/-- Which providers are in a group. -/
def isIn : MenuGroup → Provider → Bool
  | .upload, p => p.isUpload
  | .getTool, p => !p.isUpload && p.method == .get
  | .postTool, p => !p.isUpload && p.method == .post

theorem inGroup_eq (r : Registry) (group : MenuGroup) :
    r.inGroup group = r.providers.filter (isIn group) := by
  refine List.filter_congr fun p _ => ?_
  rw [Provider.menuGroup]
  cases hu : p.isUpload <;> cases hm : p.method <;> cases group <;> simp [isIn, hu, hm]

theorem uploads_eq : r.uploads = r.providers.filter (·.isUpload) := inGroup_eq r .upload

theorem getElem?_captures (r : Registry) (mode : Capture.Mode) :
    (ofRegistry r)[Capture.Mode.all.idxOf mode]? = some (captureMenu r mode) := by
  cases mode <;> rfl

/-- The providers below a submenu are those that its trigger fits, in their order. -/
theorem submenu_of_trigger (r : Registry) (trigger : Trigger) : ∃ label none?,
    (ofRegistry r)[submenuOf trigger]? = some (.submenu label
      (providerEntries none? trigger (r.providers.filter (accepts · trigger)))) := by
  cases trigger with
  | capture mode =>
    rw [submenuOf, getElem?_captures, captureMenu, uploads_eq]
    exact ⟨_, _, rfl⟩
  | tool => exact ⟨_, _, rfl⟩

theorem trigger_of_submenu {label : String} {entries : List Entry}
    (h : (ofRegistry r)[position]? = some (.submenu label entries)) :
    ∃ trigger, position = submenuOf trigger := by
  match position with
  | 0 => exact ⟨.capture .full, rfl⟩
  | 1 => exact ⟨.capture .region, rfl⟩
  | 2 => exact ⟨.capture .window, rfl⟩
  | 3 => exact ⟨.tool, rfl⟩
  | 4 | 5 | 6 | 7 | 8 => cases h
  | n + 9 => cases h

theorem submenuOf_inj (h : submenuOf trigger = submenuOf trigger') : trigger = trigger' := by
  have hne (mode : Capture.Mode) : submenuOf (.capture mode) < submenuOf .tool :=
    List.idxOf_lt_length_iff.mpr (Capture.Mode.mem_all mode)
  cases trigger with
  | capture mode =>
    cases trigger' with
    | capture mode' => rw [(List.idxOf_inj (Capture.Mode.mem_all mode)).mp h]
    | tool => exact absurd h (Nat.ne_of_lt (hne mode))
  | tool =>
    cases trigger' with
    | capture mode' => exact absurd h (Nat.ne_of_gt (hne mode'))
    | tool => rfl

/-- What is kept of a list stands behind all that is kept of what comes before it. -/
theorem getElem?_filter_iff {keep : α → Bool} {l : List α} {a : α} : (l.filter keep)[j]? = some a ↔
    ∃ i, l[i]? = some a ∧ keep a = true ∧ (l.take i).countP keep = j := by
  induction l generalizing j with
  | nil => simp
  | cons b l ih =>
    rw [← Nat.or_exists_add_one]
    cases hb : keep b with
    | true =>
      cases j with
      | zero =>
        have hfirst : b = a → keep a = true := fun heq => heq ▸ hb
        simpa [hb] using hfirst
      | succ j => simp [hb, ih]
    | false =>
      have hfirst : ¬ ((b :: l)[0]? = some a ∧ keep a = true ∧
          ((b :: l).take 0).countP keep = j) := by
        rintro ⟨hfound, ha, -⟩
        cases hfound
        rw [hb] at ha
        cases ha
      rw [or_iff_right hfirst, List.filter_cons_of_neg (by simp [hb]), ih]
      simp [hb]

/-- Further behind there is more in front. -/
theorem countP_take_lt {keep : α → Bool} {l : List α} {a : α} (h : l[i]? = some a)
    (ha : keep a = true) (hlt : i < j) : (l.take i).countP keep < (l.take j).countP keep := by
  have hnext : (l.take (i + 1)).countP keep = (l.take i).countP keep + 1 := by
    simp [List.take_add_one, h, ha]
  have hmono : (l.take (i + 1)).countP keep ≤ (l.take j).countP keep :=
    (List.take_sublist_take_left hlt).countP_le
  omega

theorem eq_of_countP_take {keep : α → Bool} {l : List α} {a b : α} (hi : l[i]? = some a)
    (ha : keep a = true) (hj : l[j]? = some b) (hb : keep b = true)
    (h : (l.take i).countP keep = (l.take j).countP keep) : i = j := by
  rcases Nat.lt_trichotomy i j with hlt | heq | hlt
  · have := countP_take_lt hi ha hlt
    omega
  · exact heq
  · have := countP_take_lt hj hb hlt
    omega

theorem choose_inner_iff : choose menu position (some inner) = .entry e ↔
    ∃ label entries, menu[position]? = some (.submenu label entries) ∧
      entries[inner]? = some e := by
  rw [choose]
  rcases menu[position]? with _ | (_ | ⟨label, entries⟩ | _)
  · simp
  · simp
  · cases h : entries[inner]? <;> simp [h]
  · simp

theorem getElem?_providerEntries_iff :
    (providerEntries none? trigger listed)[inner]? = some e ∧ e.enabled = true ↔
      ∃ p, listed[inner]? = some p ∧ e = providerEntry trigger p := by
  rw [providerEntries]
  cases listed with
  | nil =>
    constructor
    · rintro ⟨he, hen⟩
      obtain rfl := List.mem_singleton.mp (List.mem_of_getElem? he)
      cases hen
    · rintro ⟨p, hp, -⟩
      simp at hp
  | cons p listed =>
    simp only [List.isEmpty_cons, Bool.false_eq_true, if_false, List.getElem?_map,
      Option.map_eq_some_iff]
    constructor
    · rintro ⟨⟨p, hp, rfl⟩, -⟩
      exact ⟨p, hp, rfl⟩
    · rintro ⟨p, hp, rfl⟩
      exact ⟨⟨p, hp, rfl⟩, rfl⟩

/-- The entries of submenus that can be chosen are the providers under the triggers that fit
them. -/
theorem choose_enabled_iff :
    choose (ofRegistry r) position (some inner) = .entry e ∧ e.enabled = true ↔
      ∃ i p trigger, r.providers[i]? = some p ∧ Job.Fits ⟨p, trigger⟩ ∧
        placeOf r (i, trigger) = (position, inner) ∧ e = providerEntry trigger p := by
  simp only [Job.fits_iff_accepts, placeOf, Prod.mk.injEq]
  constructor
  · rintro ⟨hc, hen⟩
    obtain ⟨label, entries, hsub, he⟩ := choose_inner_iff.mp hc
    obtain ⟨trigger, rfl⟩ := trigger_of_submenu hsub
    obtain ⟨_, none?, hitem⟩ := submenu_of_trigger r trigger
    rw [hitem] at hsub
    cases hsub
    obtain ⟨p, hp, rfl⟩ := getElem?_providerEntries_iff.mp ⟨he, hen⟩
    obtain ⟨i, hi, hfits, hcount⟩ := getElem?_filter_iff.mp hp
    exact ⟨i, p, trigger, hi, hfits, ⟨rfl, hcount⟩, rfl⟩
  · rintro ⟨i, p, trigger, hi, hfits, ⟨rfl, hcount⟩, rfl⟩
    obtain ⟨label, none?, hitem⟩ := submenu_of_trigger r trigger
    have hp := getElem?_filter_iff.mpr ⟨i, hi, hfits, hcount⟩
    obtain ⟨he, hen⟩ := getElem?_providerEntries_iff.mpr ⟨p, hp, rfl⟩
    exact ⟨choose_inner_iff.mpr ⟨label, _, hitem, he⟩, hen⟩

theorem bijOn_placeOf : Set.BijOn (placeOf r) (fitting r) (choosable (ofRegistry r)) := by
  refine ⟨?_, ?_, ?_⟩
  · rintro ⟨i, trigger⟩ ⟨p, hi, hf⟩
    exact ⟨_, choose_enabled_iff.mpr ⟨i, p, trigger, hi, hf, rfl, rfl⟩⟩
  · rintro ⟨i, trigger⟩ ⟨p, hi, hf⟩ ⟨j, trigger'⟩ ⟨q, hj, hf'⟩ hplace
    obtain ⟨hsub, hcount⟩ := Prod.mk.inj hplace
    obtain rfl : trigger = trigger' := submenuOf_inj hsub
    rw [Job.fits_iff_accepts] at hf hf'
    have hsame : i = j := eq_of_countP_take hi hf hj hf' hcount
    rw [hsame]
  · rintro ⟨position, inner⟩ ⟨e, he⟩
    obtain ⟨i, p, trigger, hi, hf, hplace, -⟩ := choose_enabled_iff.mp he
    exact ⟨(i, trigger), ⟨p, hi, hf⟩, hplace⟩

/-- What the entries that are in no submenu do. -/
theorem choose_top_iff {effect : Option Effect} :
    (∃ e, choose (ofRegistry r) position none = .entry e ∧ e.effect = effect) ↔
      (position, effect) ∈
        [(5, some (.send .cancelPending)), (6, some (.send .reload)), (8, some .quit)] := by
  match position with
  | 0 | 1 | 2 | 3 | 4 | 7 => simp [choose, ofRegistry, Capture.Mode.all, captureMenu, toolMenu]
  | 5 | 6 | 8 => simp [choose, ofRegistry, Capture.Mode.all, eq_comm]
  | n + 9 => simp [choose, ofRegistry, Capture.Mode.all]

theorem offers_ofRegistry (r : Registry) : Offers r (ofRegistry r) where
  captures mode := by
    refine ⟨_, getElem?_captures r mode, ?_⟩
    rw [uploads_eq]
    exact lists_providerEntries
  tools := ⟨_, rfl, lists_providerEntries⟩
  once := bijOn_placeOf
  starts i p trigger hi hf := by
    obtain ⟨he, -⟩ := choose_enabled_iff.mpr ⟨i, p, trigger, hi, hf, rfl, rfl⟩
    exact ⟨_, he, sends_iff.mpr rfl⟩
  top position e he := by
    have heffect := choose_top_iff.mp ⟨e, he, rfl⟩
    simp only [List.mem_cons, Prod.mk.injEq, List.not_mem_nil, or_false] at heffect
    rw [sends_iff, sends_iff, quits_iff]
    exact heffect.imp And.right (Or.imp And.right And.right)
  cancel := by
    simp only [sends_iff, choose_top_iff]
    exact ⟨5, by simp, by simp⟩
  reload := by
    simp only [sends_iff, choose_top_iff]
    exact ⟨6, by simp, by simp⟩
  quit := by
    simp only [quits_iff, choose_top_iff]
    exact ⟨8, by simp, by simp⟩

theorem grouped (r : Registry) : Grouped r := by
  have htools (group : MenuGroup) (method : Method)
      (h : isIn group = fun p => !p.isUpload && p.method == method) :
      r.inGroup group = (r.providers.filter (!·.isUpload)).filter (·.method == method) := by
    rw [inGroup_eq, h, List.filter_filter]
    exact List.filter_congr fun p _ => Bool.and_comm _ _
  have hupload : r.inGroup .upload = r.providers.filter (·.isUpload) := uploads_eq
  have hget := htools .getTool .get rfl
  have hpost := htools .postTool .post rfl
  refine ⟨hupload, hget, hpost, ?_⟩
  have hother : ∀ p : Provider, (p.method == .post) = !(p.method == .get) := by
    intro p
    cases p.method <;> rfl
  have hsplit : (r.inGroup .getTool ++ r.inGroup .postTool).Perm
      (r.providers.filter (!·.isUpload)) := by
    simp only [hget, hpost, hother]
    exact List.filter_append_perm _ _
  rw [hupload]
  exact (hsplit.append_left _).trans (List.filter_append_perm _ _)

/-- The menu offers each provider once under each trigger that fits it, in the order of the files,
and nothing besides but to cancel, to reload and to quit; and the groups divide the providers
likewise. -/
theorem offers_every_job (r : Registry) : Offers r (ofRegistry r) ∧ Grouped r :=
  ⟨offers_ofRegistry r, grouped r⟩

end LinkShot.Menu
