import LinkShot.Proofs.Json.Literals
import LinkShot.Proofs.Json.Trees
import LinkShot.Proofs.Provider.Judging

/-!
The members of a definition file. A file that is accepted stays the same provider when its members
are moved around, and when members under other names or with null come or go; the order counts only
among the arguments and among the headers.
-/
namespace LinkShot.Provider

open Json (Tree Literal)

variable {file file' next next' : File} {key key' : Key} {seen seen' now now' : List Key}
  {tree tree' : Tree} {member member' : Literal × Tree} {members members' : List (Literal × Tree)}
  {provider : Provider} {raw raw' : Text.Bytes} {name : String}

/-- The text is one object with these members. -/
def IsObject (raw : Text.Bytes) (members : List (Literal × Tree)) : Prop :=
  Json.readText raw = (.object members none, false)

/-- Members that come to the same: they may stand in any order, and there may be others, under names
that are no keys, or with null for a key that is absent. -/
inductive Interchangeable : List (Literal × Tree) → List (Literal × Tree) → Prop
  | perm {members members' : List (Literal × Tree)} : members.Perm members' →
    Interchangeable members members'
  | other {members : List (Literal × Tree)} {literal : Literal} {tree : Tree} {name : String} :
    literal.text = .ok name → (∀ key : Key, key.text ≠ name) → tree.Whole →
    Interchangeable members ((literal, tree) :: members)
  | absent {members : List (Literal × Tree)} {literal : Literal} {key : Key} :
    literal.text = .ok key.text → (∀ member ∈ members, member.1.text ≠ .ok key.text) →
    Interchangeable members ((literal, .null) :: members)
  | symm {members members' : List (Literal × Tree)} : Interchangeable members members' →
    Interchangeable members' members
  | trans {members members' members'' : List (Literal × Tree)} : Interchangeable members members' →
    Interchangeable members' members'' → Interchangeable members members''

/-- What reading one member makes of a file and of the keys that are there. -/
inductive Reads (file : File) (seen : List Key) (member : Literal × Tree) : File → List Key → Prop
  | other {name : String} : member.1.text = .ok name → (∀ key : Key, key.text ≠ name) →
    member.2.skip = .ok () → Reads file seen member file seen
  | known {key : Key} {next : File} : member.1.text = .ok key.text → key ∉ seen →
    file.set key member.2 = .ok next → Reads file seen member next (key :: seen)

theorem ofText?_eq_none_iff : Key.ofText? name = none ↔ ∀ key : Key, key.text ≠ name := by
  rw [Option.eq_none_iff_forall_ne_some]
  simp only [ne_eq, Key.ofText?_eq_some_iff]

theorem ofMembers_cons (h : Reads file seen member next now) :
    file.ofMembers seen (member :: members) = next.ofMembers now members := by
  cases h with
  | other hl hnone hskip =>
    simp [File.ofMembers, hl, ofText?_eq_none_iff.mpr hnone, hskip, bind, Except.bind]
  | known hl hnew hset =>
    simp [File.ofMembers, hl, Key.ofText?_eq_some_iff.mpr rfl, hnew, hset, bind, Except.bind]

theorem ofMembers_cons_iff : file.ofMembers seen (member :: members) = .ok file' ↔
    ∃ next now, Reads file seen member next now ∧ next.ofMembers now members = .ok file' := by
  constructor
  · intro h
    simp only [File.ofMembers, bind_eq_ok_iff] at h
    obtain ⟨text, hl, h⟩ := h
    cases hk : Key.ofText? text with
    | none =>
      simp only [hk, bind_eq_ok_iff] at h
      obtain ⟨⟨⟩, hskip, h⟩ := h
      exact ⟨file, seen, .other hl (ofText?_eq_none_iff.mp hk) hskip, h⟩
    | some key =>
      obtain rfl := Key.ofText?_eq_some_iff.mp hk
      simp only [hk] at h
      split at h
      · cases h
      · rename_i hnew
        obtain ⟨next, hset, h⟩ := bind_eq_ok_iff.mp h
        exact ⟨next, key :: seen, .known hl hnew hset, h⟩
  · rintro ⟨next, now, hr, h⟩
    exact (ofMembers_cons hr).trans h

/-- Of the keys that are there only those count that are still to come. -/
theorem ofMembers_seen (h : ∀ key : Key, (∃ member ∈ members, member.1.text = .ok key.text) →
    (key ∈ seen ↔ key ∈ seen')) (hf : file.ofMembers seen members = .ok file') :
    file.ofMembers seen' members = .ok file' := by
  induction members generalizing file seen seen' with
  | nil => exact hf
  | cons member members ih =>
    have hrest {key : Key} (hin : ∃ member ∈ members, member.1.text = .ok key.text) :
        key ∈ seen ↔ key ∈ seen' := by
      obtain ⟨later, hlater, htext⟩ := hin
      exact h key ⟨later, List.mem_cons_of_mem _ hlater, htext⟩
    obtain ⟨next, now, hr, hf⟩ := ofMembers_cons_iff.mp hf
    refine ofMembers_cons_iff.mpr ?_
    cases hr with
    | other hl hnone hskip => exact ⟨file, seen', .other hl hnone hskip, ih (fun _ => hrest) hf⟩
    | @known key next hl hnew hset =>
      have hnew' : key ∉ seen' := mt (h key ⟨member, List.mem_cons_self, hl⟩).mpr hnew
      refine ⟨next, key :: seen', .known hl hnew' hset, ih (fun later hin => ?_) hf⟩
      rw [List.mem_cons, List.mem_cons, hrest hin]

/-- Values of two keys may be read in either order. -/
theorem set_comm (h : file.set key tree = .ok next) (h' : next.set key' tree' = .ok file')
    (hne : key' ≠ key) :
    ∃ other, file.set key' tree' = .ok other ∧ other.set key tree = .ok file' := by
  -- Each key has a field of its own, and what is read for it depends on the value alone.
  cases key <;> (simp only [File.set, map_eq_ok_iff] at h; obtain ⟨r, hr, rfl⟩ := h) <;>
    cases key' <;> first
      | exact absurd rfl hne
      | (simp only [File.set, map_eq_ok_iff] at h'
         obtain ⟨r', hr', rfl⟩ := h'
         exact ⟨_, map_eq_ok_iff.mpr ⟨r', hr', rfl⟩, map_eq_ok_iff.mpr ⟨r, hr, rfl⟩⟩)

/-- Members next to each other may be read in either order. -/
theorem reads_swap (h : Reads file seen member next now) (h' : Reads next now member' next' now') :
    ∃ other before after, Reads file seen member' other before ∧
      Reads other before member next' after ∧ ∀ key, key ∈ now' ↔ key ∈ after := by
  cases h with
  | other hl hnone hskip =>
    cases h' with
    | other hl' hnone' hskip' =>
      exact ⟨_, _, _, .other hl' hnone' hskip', .other hl hnone hskip, fun _ => Iff.rfl⟩
    | known hl' hnew' hset' =>
      exact ⟨_, _, _, .known hl' hnew' hset', .other hl hnone hskip, fun _ => Iff.rfl⟩
  | @known key next hl hnew hset =>
    cases h' with
    | other hl' hnone' hskip' =>
      exact ⟨_, _, _, .other hl' hnone' hskip', .known hl hnew hset, fun _ => Iff.rfl⟩
    | @known key' next' hl' hnew' hset' =>
      obtain ⟨hne, hnew'⟩ := not_or.mp (mt List.mem_cons.mpr hnew')
      obtain ⟨other, hset', hset⟩ := set_comm hset hset' hne
      have hnew : key ∉ key' :: seen := by simp [Ne.symm hne, hnew]
      refine ⟨other, _, _, .known hl' hnew' hset', .known hl hnew hset, fun later => ?_⟩
      simp only [List.mem_cons, or_left_comm]

theorem ofMembers_perm (h : members.Perm members') (hf : file.ofMembers seen members = .ok file') :
    file.ofMembers seen members' = .ok file' := by
  induction h generalizing file seen with
  | nil => exact hf
  | cons member _ ih =>
    obtain ⟨next, now, hr, hf⟩ := ofMembers_cons_iff.mp hf
    exact ofMembers_cons_iff.mpr ⟨next, now, hr, ih hf⟩
  | swap member member' members =>
    obtain ⟨next, now, hr, hf⟩ := ofMembers_cons_iff.mp hf
    obtain ⟨next', now', hr', hf⟩ := ofMembers_cons_iff.mp hf
    obtain ⟨other, before, after, hfirst, hsecond, hseen⟩ := reads_swap hr hr'
    -- The keys of the two are there in another order, which the other members cannot tell.
    have hrest := ofMembers_seen (fun key _ => hseen key) hf
    exact ofMembers_cons_iff.mpr
      ⟨other, before, hfirst, ofMembers_cons_iff.mpr ⟨next', after, hsecond, hrest⟩⟩
  | trans _ _ ih ih' => exact ih' (ih hf)

theorem set_blank_null (key : Key) : File.blank.set key .null = .ok .blank := by
  cases key <;> rfl

/-- A key with null is read like one that is absent. -/
theorem ofMembers_null {literal : Literal} (hl : literal.text = .ok key.text)
    (h : ∀ member ∈ members, member.1.text ≠ .ok key.text) :
    File.blank.ofMembers [] ((literal, .null) :: members) = .ok file ↔
      File.blank.ofMembers [] members = .ok file := by
  have hseen (later : Key) (hin : ∃ member ∈ members, member.1.text = .ok later.text) :
      later ∈ [key] ↔ later ∈ ([] : List Key) := by
    obtain ⟨member, hmember, htext⟩ := hin
    have hne : later ≠ key := fun he => h member hmember (he ▸ htext)
    simp [hne]
  rw [ofMembers_cons (.known hl List.not_mem_nil (set_blank_null key))]
  exact ⟨ofMembers_seen hseen, ofMembers_seen fun later hin => (hseen later hin).symm⟩

theorem ofMembers_interchangeable (h : Interchangeable members members') :
    File.blank.ofMembers [] members = .ok file ↔ File.blank.ofMembers [] members' = .ok file := by
  induction h with
  | perm hp => exact ⟨ofMembers_perm hp, ofMembers_perm hp.symm⟩
  | @other members literal tree name hl hnone hw =>
    have hr : Reads .blank [] (literal, tree) .blank [] := .other hl hnone (Json.skip_of_whole hw)
    rw [ofMembers_cons hr]
  | absent hl hnone => exact (ofMembers_null hl hnone).symm
  | symm _ ih => exact ih.symm
  | trans _ _ ih ih' => exact ih.trans ih'

theorem read_of_isObject (h : IsObject raw members) :
    File.read raw = File.blank.ofMembers [] members := by
  rw [IsObject] at h
  rw [File.read, Json.readWith, h]
  cases hf : File.blank.ofMembers [] members <;>
    simp [File.ofTree, hf, Json.endFault, bind, Except.bind, pure, Except.pure]

theorem parse_eq_ok_iff (h : IsObject raw members) : parse raw = .ok provider ↔
    ∃ file, File.blank.ofMembers [] members = .ok file ∧ ofFile file = .ok provider := by
  rw [parse, read_of_isObject h]
  cases File.blank.ofMembers [] members <;> simp

/-- An object that is accepted is whole, and nothing follows it. -/
theorem isObject_of_accepted {ending : Option Json.Break}
    (h : (Json.readText raw).1 = .object members ending) (hp : parse raw = .ok provider) :
    IsObject raw members := by
  unfold parse at hp
  split at hp
  · rename_i file hfile
    obtain ⟨htree, htrailing⟩ := Json.readWith_eq_ok_iff.mp hfile
    rw [h] at htree
    simp only [File.ofTree, bind_eq_ok_iff] at htree
    obtain ⟨_, -, ⟨⟩, hend, -⟩ := htree
    have hwhole : ending = none := by cases ending <;> simp_all [Json.endFault]
    exact Prod.ext (h.trans (by rw [hwhole])) htrailing
  · cases hp

/-- The names of an object's members in the order in which they first occur. -/
def memberNames (held : Option Tree) : List String := ((pairsOf held).map (·.1)).eraseDups

theorem keys_of_accepted (hf : File.blank.ofMembers [] members = .ok file)
    (hp : ofFile file = .ok provider) :
    provider.arguments.keys = memberNames (memberOf members .arguments) ∧
      provider.headers.keys = memberNames (memberOf members .headers) := by
  have hhas (key : Key) : file.Has (given (.object members none) key) key :=
    (has_ofMembers hf).2 List.not_mem_nil (has_blank key)
  have hdescribed := described_of_ofFile hhas hp
  have hnames (pairs : List (String × Json.Value)) :
      (pairs.map fun p => (p.1, memberText p.2)).map (·.1) = pairs.map (·.1) := by
    simp [Function.comp_def]
  exact ⟨hdescribed.arguments.keys.trans (congrArg _ (hnames _)),
    hdescribed.headers.keys.trans (congrArg _ (hnames _))⟩

/-- An object that is accepted is the same provider in every order of its members, whatever else
stands under other names, and with or without nulls for the keys it lacks. The order of its
arguments and that of its headers is the provider's. -/
theorem members_interchange {ending : Option Json.Break}
    (h : (Json.readText raw).1 = .object members ending) (hp : parse raw = .ok provider)
    (h' : IsObject raw' members') (hi : Interchangeable members members') :
    parse raw' = .ok provider ∧
      provider.arguments.keys = memberNames (memberOf members .arguments) ∧
      provider.headers.keys = memberNames (memberOf members .headers) := by
  have hobject := isObject_of_accepted h hp
  obtain ⟨file, hf, hok⟩ := (parse_eq_ok_iff hobject).mp hp
  have hf' := (ofMembers_interchangeable hi).mp hf
  exact ⟨(parse_eq_ok_iff h').mpr ⟨file, hf', hok⟩, keys_of_accepted hf hok⟩

/-- A literal without escapes. -/
def literal (text : String) : Literal := ⟨(Text.encode text).map .raw, .closed⟩

theorem text_literal (text : String) : (literal text).text = .ok text := by
  have hbytes : Literal.bytesFrom .closed ((Text.encode text).map .raw ++ []) =
      .ok (Text.encode text) := by
    rw [Json.bytesFrom_bare]
    simp [Literal.bytesFrom, Json.StringEnd.fault?, Except.map]
  rw [List.append_nil] at hbytes
  simp only [literal, Literal.text, hbytes, Text.decode_encode]

def plain : Text.Bytes := Text.encode
  ("\x7b\"Name\":\"n\",\"RequestType\":\"GET\",\"RequestURL\":\"u\"," ++
    "\"Arguments\":\x7b\"b\":null,\"a\":true\x7d\x7d")

/-- The least that a file has to hold. -/
def leastMembers : List (Literal × Tree) :=
  [(literal Key.name.text, .string (literal "n")),
    (literal Key.requestType.text, .string (literal "GET")),
    (literal Key.requestURL.text, .string (literal "u"))]

def plainMembers : List (Literal × Tree) := leastMembers ++
  [(literal Key.arguments.text, .object [(literal "b", .null), (literal "a", .bool true)] none)]

/-- The same file backwards, with a null and an unknown object that repeats a known key. -/
def turned : Text.Bytes := Text.encode
  ("\x7b\"Arguments\":\x7b\"b\":null,\"a\":true\x7d,\"RequestURL\":\"u\"," ++
    "\"RequestType\":\"GET\",\"Name\":\"n\",\"x\":\x7b\"Name\":1,\"Name\":[]\x7d,\"URL\":null\x7d")

def unknown : Tree :=
  .object [(literal "Name", .number ⟨false, [1], [], false, none⟩),
    (literal "Name", .array [] none)] none

theorem members_interchange_turned : ∃ members provider, IsObject plain plainMembers ∧
    IsObject turned members ∧ Interchangeable plainMembers members ∧ parse plain = .ok provider ∧
    parse turned = .ok provider ∧ provider.arguments.keys = ["b", "a"] := by
  have hplain : IsObject plain plainMembers := by
    unfold IsObject
    decide +kernel
  have hturned : IsObject turned
      ((literal "URL", .null) :: (literal "x", unknown) :: plainMembers).reverse := by
    unfold IsObject
    decide +kernel
  have hwhole : unknown.Whole := by
    refine .object (by simp [literal]) ?_
    simp only [List.forall_mem_cons, List.not_mem_nil, IsEmpty.forall_iff, implies_true, and_true]
    exact ⟨.number, .array (by simp)⟩
  have hother : Interchangeable plainMembers ((literal "x", unknown) :: plainMembers) :=
    .other (text_literal "x") (by rintro ⟨⟩ <;> decide) hwhole
  have habsent : Interchangeable ((literal "x", unknown) :: plainMembers)
      ((literal "URL", .null) :: (literal "x", unknown) :: plainMembers) :=
    @Interchangeable.absent _ _ .url (text_literal _) (by decide)
  have hi := (hother.trans habsent).trans (.perm (List.reverse_perm _).symm)
  have haccepted : (parse plain).toOption.isSome := by decide +kernel
  obtain ⟨provider, hp⟩ := Option.isSome_iff_exists.mp haccepted
  have hp := toOption_eq_some_iff.mp hp
  obtain ⟨hp', hkeys, -⟩ := members_interchange (congrArg Prod.fst hplain) hp hturned hi
  exact ⟨_, provider, hplain, hturned, hi, hp, hp', hkeys.trans (by decide +kernel)⟩

end LinkShot.Provider
