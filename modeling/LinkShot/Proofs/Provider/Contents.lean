import LinkShot.Proofs.Latest
import LinkShot.Provider.Definition

/-!
The contents of definition files, told by their syntax trees: what a file holds for a key is the
value of the member with that name, or the item at the key's place where the file is a list.
-/
namespace LinkShot.Provider

open Json (Tree Value Literal Break depthLimit written)

variable {file file' : File} {key key' : Key} {keys seen : List Key} {tree : Tree}
  {held : Option Tree} {members : List (Literal × Tree)} {items : List Tree}

def memberOf (members : List (Literal × Tree)) (key : Key) : Option Tree :=
  (members.find? fun m => m.1.text.toOption = some key.text).map (·.2)

/-- What the tree of a file holds for a key. -/
def given (tree : Tree) (key : Key) : Option Tree :=
  match tree with
  | .object members _ => memberOf members key
  | .array items _ => items[Key.all.idxOf key]?
  | _ => none

/-- A value that is there and not null. -/
def isPresent : Option Tree → Bool
  | none | some .null => false
  | some _ => true

def textOf : Option Tree → Option String
  | some (.string l) => l.text.toOption
  | _ => none

def flagOf : Option Tree → Option Bool
  | some (.bool b) => some b
  | _ => none

def textsOf : Option Tree → List String
  | some (.array items _) => items.filterMap fun item => textOf (some item)
  | _ => []

/-- The members of an object as they are written, repeated ones included. -/
def pairsOf : Option Tree → List (String × Value)
  | some (.object members _) => written (depthLimit - 2) members
  | _ => []

/-- The file has for the key what its text holds. -/
def File.Has (file : File) (held : Option Tree) : Key → Prop
  | .name => file.name = textOf held ∧ file.name.isSome = isPresent held
  | .requestType => file.method = textOf held ∧ file.method.isSome = isPresent held
  | .requestURL => file.address = textOf held ∧ file.address.isSome = isPresent held
  | .fileFormName => file.fileField = textOf held
  | .dataOnly => file.dataOnly = flagOf held
  | .multiline => file.multiline = flagOf held
  | .arguments => Latest (pairsOf held) (file.arguments.getD [])
  | .headers => Latest (pairsOf held) (file.headers.getD [])
  | .regexList => file.patterns.getD [] = textsOf held
  | .url => file.template = textOf held

theorem null_or_read {α : Type} {read : Tree → Except Json.Fault α} {r : Option α}
    (h : orNull read tree = .ok r) :
    tree = .null ∧ r = none ∨ ∃ a, read tree = .ok a ∧ r = some a := by
  unfold orNull at h
  split at h
  · cases h
    exact .inl ⟨rfl, rfl⟩
  · obtain ⟨a, ha, rfl⟩ := map_eq_ok_iff.mp h
    exact .inr ⟨a, ha, rfl⟩

theorem string_of_read {s : String} (h : readString tree = .ok s) :
    ∃ l, tree = .string l ∧ l.text = .ok s := by
  unfold readString at h
  split at h
  · exact ⟨_, rfl, h⟩
  · cases h

theorem bool_of_read {b : Bool} (h : readBool tree = .ok b) : tree = .bool b := by
  unfold readBool at h
  split at h <;> cases h
  rfl

theorem object_of_read {values : List (String × Value)} (h : readMembers tree = .ok values) :
    ∃ members ending, tree = .object members ending ∧
      Json.memberValues (depthLimit - 2) [] members = .ok values := by
  unfold readMembers at h
  split at h
  · simp only [bind_eq_ok_iff, pure_eq_ok_iff] at h
    obtain ⟨read, hread, -, -, rfl⟩ := h
    exact ⟨_, _, rfl, hread⟩
  · cases h

theorem array_of_read {texts : List String} (h : readStrings tree = .ok texts) :
    ∃ items ending, tree = .array items ending ∧ items.mapM readString = .ok texts := by
  unfold readStrings at h
  split at h
  · simp only [bind_eq_ok_iff, pure_eq_ok_iff] at h
    obtain ⟨read, hread, -, -, rfl⟩ := h
    exact ⟨_, _, rfl, hread⟩
  · cases h

theorem text_of_read {s : String} (h : readString tree = .ok s) : textOf (some tree) = some s := by
  obtain ⟨l, rfl, hl⟩ := string_of_read h
  simp [textOf, hl, Except.toOption]

theorem text_of_orNull {r : Option String} (h : orNull readString tree = .ok r) :
    r = textOf (some tree) ∧ r.isSome = isPresent (some tree) := by
  rcases null_or_read h with ⟨rfl, rfl⟩ | ⟨s, hs, rfl⟩
  · exact ⟨rfl, rfl⟩
  · refine ⟨(text_of_read hs).symm, ?_⟩
    obtain ⟨l, rfl, -⟩ := string_of_read hs
    rfl

theorem flag_of_orNull {r : Option Bool} (h : orNull readBool tree = .ok r) :
    r = flagOf (some tree) := by
  rcases null_or_read h with ⟨rfl, rfl⟩ | ⟨b, hb, rfl⟩
  · rfl
  · rw [bool_of_read hb]
    rfl

theorem latest_of_orNull {r : Option (List (String × Value))}
    (h : orNull readMembers tree = .ok r) :
    Latest (pairsOf (some tree)) (r.getD []) := by
  rcases null_or_read h with ⟨rfl, rfl⟩ | ⟨values, hv, rfl⟩
  · exact latest_nil
  · obtain ⟨members, ending, rfl, hm⟩ := object_of_read hv
    simpa [pairsOf] using Json.latest_memberValues latest_nil hm

theorem texts_of_mapM {texts : List String} (h : items.mapM readString = .ok texts) :
    texts = items.filterMap fun item => textOf (some item) := by
  induction items generalizing texts with
  | nil =>
    cases h
    rfl
  | cons item rest ih =>
    simp only [List.mapM_cons, bind_eq_ok_iff, pure_eq_ok_iff] at h
    obtain ⟨text, htext, rest', hrest, rfl⟩ := h
    rw [List.filterMap_cons, text_of_read htext, ← ih hrest]

theorem texts_of_orNull {r : Option (List String)} (h : orNull readStrings tree = .ok r) :
    r.getD [] = textsOf (some tree) := by
  rcases null_or_read h with ⟨rfl, rfl⟩ | ⟨texts, ht, rfl⟩
  · rfl
  · obtain ⟨items, ending, rfl, hm⟩ := array_of_read ht
    exact texts_of_mapM hm

/-- A key that is set has the new value. -/
theorem has_of_set (h : file.set key tree = .ok file') : file'.Has (some tree) key := by
  cases key <;> (simp only [File.set, map_eq_ok_iff] at h; obtain ⟨r, hr, rfl⟩ := h)
  case name | requestType | requestURL => exact text_of_orNull hr
  case fileFormName | url => exact (text_of_orNull hr).1
  case dataOnly | multiline => exact flag_of_orNull hr
  case arguments | headers => exact latest_of_orNull hr
  case regexList => exact texts_of_orNull hr

/-- No other key changes. -/
theorem has_of_set_other (h : file.set key tree = .ok file') (hne : key' ≠ key)
    (hh : file.Has held key') : file'.Has held key' := by
  cases key <;> (simp only [File.set, map_eq_ok_iff] at h; obtain ⟨r, -, rfl⟩ := h) <;>
    cases key' <;> first | exact absurd rfl hne | exact hh

theorem has_blank (key : Key) : File.blank.Has none key := by
  cases key <;> first | exact latest_nil | exact ⟨rfl, rfl⟩ | rfl

theorem Key.text_inj (h : key.text = key'.text) : key = key' := by
  revert h
  cases key <;> cases key' <;> decide

theorem Key.ofText?_eq_some_iff {text : String} :
    Key.ofText? text = some key ↔ key.text = text := by
  constructor
  · intro h
    simpa using List.find?_some h
  · rintro rfl
    cases key <;> rfl

theorem memberOf_cons {l : Literal} {text : String} (hl : l.text = .ok text) :
    memberOf ((l, tree) :: members) key =
      if key.text = text then some tree else memberOf members key := by
  by_cases h : key.text = text
  · simp [memberOf, hl, Except.toOption, h]
  · simp [memberOf, hl, Except.toOption, h, Ne.symm h]

/-- What has been seen stays; what has not been seen comes from the first member of its name. -/
theorem has_ofMembers (h : file.ofMembers seen members = .ok file') :
    (key ∈ seen → ∀ held, file.Has held key → file'.Has held key) ∧
    (key ∉ seen → file.Has none key → file'.Has (memberOf members key) key) := by
  induction members generalizing file seen with
  | nil =>
    cases h
    exact ⟨fun _ _ hh => hh, fun _ hh => hh⟩
  | cons member rest ih =>
    obtain ⟨l, tree⟩ := member
    simp only [File.ofMembers, bind_eq_ok_iff] at h
    obtain ⟨text, hl, h⟩ := h
    rw [memberOf_cons hl]
    cases hk : Key.ofText? text with
    | none =>
      have hne : key.text ≠ text := by
        intro he
        rw [Key.ofText?_eq_some_iff.mpr he] at hk
        cases hk
      simp only [hk, bind_eq_ok_iff] at h
      obtain ⟨-, -, h⟩ := h
      rw [if_neg hne]
      exact ih h
    | some first =>
      obtain rfl := Key.ofText?_eq_some_iff.mp hk
      simp only [hk] at h
      split at h
      · cases h
      · rename_i hnew
        obtain ⟨next, hset, h⟩ := bind_eq_ok_iff.mp h
        obtain ⟨hold, hfresh⟩ := ih h
        constructor
        · intro hin held hh
          have hne : key ≠ first := fun he => hnew (he ▸ hin)
          exact hold (List.mem_cons_of_mem _ hin) held (has_of_set_other hset hne hh)
        · intro hin hh
          by_cases he : key = first
          · subst he
            rw [if_pos rfl]
            exact hold List.mem_cons_self _ (has_of_set hset)
          · rw [if_neg (mt Key.text_inj he)]
            refine hfresh ?_ (has_of_set_other hset he hh)
            simp [he, hin]

/-- A list gives its items to the keys in order, and nothing to those it does not reach. -/
theorem has_ofItems {count : Nat} {ending : Option Break}
    (h : file.ofItems count ending keys items = .ok file') (hn : keys.Nodup) :
    (key ∉ keys → ∀ held, file.Has held key → file'.Has held key) ∧
    (key ∈ keys → file.Has none key → file'.Has items[keys.idxOf key]? key) := by
  induction keys generalizing file count items with
  | nil =>
    obtain ⟨-, -, rfl⟩ := map_eq_ok_iff.mp h
    exact ⟨fun _ _ hh => hh, by simp⟩
  | cons first keys ih =>
    obtain ⟨hfirst, hn⟩ := List.nodup_cons.mp hn
    cases items with
    | nil =>
      cases ending with
      | some b => cases h
      | none =>
        simp only [File.ofItems] at h
        split at h
        · cases h
        · obtain ⟨hother, hrest⟩ := ih h hn
          simp only [List.getElem?_nil] at hrest ⊢
          refine ⟨fun hin => hother (mt (List.mem_cons_of_mem _) hin), fun hin hh => ?_⟩
          rcases List.mem_cons.mp hin with rfl | hin
          · exact hother hfirst none hh
          · exact hrest hin hh
    | cons item items =>
      obtain ⟨next, hset, h⟩ := bind_eq_ok_iff.mp h
      obtain ⟨hother, hrest⟩ := ih h hn
      constructor
      · intro hin held hh
        rw [List.mem_cons, not_or] at hin
        exact hother hin.2 held (has_of_set_other hset hin.1 hh)
      · intro hin hh
        by_cases he : key = first
        · subst he
          simpa using hother hfirst _ (has_of_set hset)
        · have hin : key ∈ keys := (List.mem_cons.mp hin).resolve_left he
          simpa [List.idxOf_cons, Ne.symm he] using hrest hin (has_of_set_other hset he hh)

/-- A file that is read has for each key what its text holds. -/
theorem has_ofTree (h : File.ofTree tree = .ok file) (key : Key) :
    file.Has (given tree key) key := by
  cases tree with
  | object members ending =>
    simp only [File.ofTree, bind_eq_ok_iff, pure_eq_ok_iff] at h
    obtain ⟨read, hread, -, -, rfl⟩ := h
    exact (has_ofMembers hread).2 List.not_mem_nil (has_blank key)
  | array items ending =>
    have hall : key ∈ Key.all := by cases key <;> decide
    exact (has_ofItems h (by decide)).2 hall (has_blank key)
  | _ => simp [File.ofTree] at h

end LinkShot.Provider
