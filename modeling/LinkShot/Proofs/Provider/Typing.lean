import LinkShot.Proofs.Provider.Kinds
import LinkShot.Proofs.Provider.Members

/-!
Values of the wrong type in definition files. Only a list or an object among the arguments or
headers is reported with its key; every other value of a wrong type is a fault of the text, which
names no key.
-/
namespace LinkShot.Provider

open Json (Tree Literal Fault depthLimit namesOf)

variable {file file' : File} {key : Key} {seen seen' : List Key} {tree : Tree}
  {member : Literal × Tree} {members before : List (Literal × Tree)} {raw : Text.Bytes}
  {fault : Fault}

/-- The members of a value that is an object. -/
def innerOf : Tree → List (Literal × Tree)
  | .object members _ => members
  | _ => []

/-- Of another type than the declared, or an object with a list or an object in it. -/
def Mistyped (key : Key) (tree : Tree) : Prop :=
  ¬ key.kind.Admits tree ∨ ∃ inner ∈ innerOf tree, inner.2.isNested = true

/-- Every name is a text, and the values of known keys keep the limits of numbers, characters and
nesting. -/
structure Readable (members : List (Literal × Tree)) : Prop where
  names : ∀ member ∈ members, ∃ name, member.1.text = .ok name
  values : ∀ key held, memberOf members key = some held → held.Legible (depthLimit - 1)

/-- The key that a member is for, if its name is a key. -/
def keyOf? (member : Literal × Tree) : Option Key := member.1.text.toOption.bind Key.ofText?

/-- A well-formed object that has what is required and each key once, where the value of a single
key, an optional one, is of the wrong type. -/
structure OneMistyped (raw : Text.Bytes) (members : List (Literal × Tree)) (key : Key)
    (tree : Tree) : Prop where
  object : IsObject raw members
  whole : ∀ member ∈ members, member.2.Whole
  once : (members.filterMap keyOf?).Nodup
  name : ∃ l, memberOf members .name = some (.string l)
  method : textOf (memberOf members .requestType) = some "GET" ∨
    textOf (memberOf members .requestType) = some "POST"
  address : ∃ l, memberOf members .requestURL = some (.string l)
  optional : key.required = false
  held : memberOf members key = some tree
  mistyped : Mistyped key tree
  only : ∀ other held, other ≠ key → memberOf members other = some held → ¬ Mistyped other held

theorem keyOf?_eq_some_iff : keyOf? member = some key ↔ member.1.text = .ok key.text := by
  simp only [keyOf?, Option.bind_eq_some_iff, toOption_eq_some_iff, Key.ofText?_eq_some_iff]
  exact ⟨fun ⟨name, hl, hk⟩ => hk ▸ hl, fun hl => ⟨_, hl, rfl⟩⟩

theorem memberOf_cons_eq : memberOf (member :: members) key =
    if keyOf? member = some key then some member.2 else memberOf members key := by
  by_cases h : keyOf? member = some key
  · have hl := keyOf?_eq_some_iff.mp h
    simp [memberOf, h, hl, Except.toOption]
  · have hl : member.1.text.toOption ≠ some key.text :=
      mt toOption_eq_some_iff.mp (mt keyOf?_eq_some_iff.mpr h)
    simp [memberOf, h, hl]

/-- Where keys are not repeated, each member is the one of its key. -/
theorem memberOf_of_mem (hn : (members.filterMap keyOf?).Nodup) (hin : member ∈ members)
    (hk : keyOf? member = some key) : memberOf members key = some member.2 := by
  induction members with
  | nil => cases hin
  | cons first members ih =>
    rw [memberOf_cons_eq]
    rcases List.mem_cons.mp hin with rfl | hin
    · rw [if_pos hk]
    · have hlater : key ∈ members.filterMap keyOf? := List.mem_filterMap.mpr ⟨member, hin, hk⟩
      have hfirst : keyOf? first ≠ some key := by
        intro hf
        rw [List.filterMap_cons_some hf, List.nodup_cons] at hn
        exact hn.1 hlater
      rw [if_neg hfirst]
      exact ih (hn.sublist ((List.sublist_cons_self _ _).filterMap _)) hin

theorem split_of_memberOf (h : memberOf members key = some tree) :
    ∃ before l behind, members = before ++ (l, tree) :: behind ∧ keyOf? (l, tree) = some key := by
  obtain ⟨⟨l, held⟩, hfind, rfl⟩ := Option.map_eq_some_iff.mp h
  obtain ⟨hl, before, behind, hsplit, -⟩ := List.find?_eq_some_iff_append.mp hfind
  exact ⟨before, l, behind, hsplit,
    keyOf?_eq_some_iff.mpr (toOption_eq_some_iff.mp (of_decide_eq_true hl))⟩

/-- A member that is read without a fault, whatever the file. -/
structure Passes (member : Literal × Tree) : Prop where
  named : ∃ name, member.1.text = .ok name
  whole : member.2.Whole
  fits : ∀ key, keyOf? member = some key → key.kind.check member.2 = .ok ()

theorem reads_of_passes (file : File) (h : Passes member)
    (hnew : ∀ key, keyOf? member = some key → key ∉ seen) :
    ∃ next, Reads file seen member next ((keyOf? member).toList ++ seen) := by
  obtain ⟨name, hl⟩ := h.named
  cases hk : keyOf? member with
  | none =>
    have hnone : ∀ key : Key, key.text ≠ name := by
      rintro key rfl
      rw [keyOf?_eq_some_iff.mpr hl] at hk
      cases hk
    exact ⟨file, .other hl hnone (Json.skip_of_whole h.whole)⟩
  | some key =>
    obtain ⟨next, hset⟩ := set_of_check file (h.fits key hk)
    exact ⟨next, .known (keyOf?_eq_some_iff.mp hk) (hnew key hk) hset⟩

/-- Members that are read without a fault may be taken off the front. -/
theorem ofMembers_passes (file : File) (seen : List Key) (h : ∀ member ∈ before, Passes member)
    (hn : (before.filterMap keyOf? ++ seen).Nodup) : ∃ (next : File) (now : List Key),
      (∀ key, key ∈ now ↔ key ∈ before.filterMap keyOf? ++ seen) ∧
      ∀ behind, file.ofMembers seen (before ++ behind) = next.ofMembers now behind := by
  induction before generalizing file seen with
  | nil => exact ⟨file, seen, fun _ => Iff.rfl, fun _ => rfl⟩
  | cons member before ih =>
    obtain ⟨hmember, h⟩ := List.forall_mem_cons.mp h
    have hkeys : ((member :: before).filterMap keyOf? ++ seen).Perm
        (before.filterMap keyOf? ++ ((keyOf? member).toList ++ seen)) := by
      cases hk : keyOf? member with
      | none => rw [List.filterMap_cons_none hk]; rfl
      | some key =>
        rw [List.filterMap_cons_some hk]
        exact List.perm_middle.symm
    have hnew (key : Key) (hk : keyOf? member = some key) : key ∉ seen := by
      have hseen := (hkeys.nodup_iff.mp hn).of_append_right
      rw [hk] at hseen
      exact (List.nodup_cons.mp hseen).1
    obtain ⟨first, hr⟩ := reads_of_passes file hmember hnew
    obtain ⟨next, now, hnow, hrest⟩ := ih first _ h (hkeys.nodup_iff.mp hn)
    refine ⟨next, now, fun key => (hnow key).trans hkeys.mem_iff.symm, fun behind => ?_⟩
    rw [List.cons_append, ofMembers_cons hr, hrest]

theorem ofMembers_fault {l : Literal} (hl : keyOf? (l, tree) = some key) (hnew : key ∉ seen)
    (hc : key.kind.check tree = .error fault) :
    file.ofMembers seen ((l, tree) :: members) = .error fault := by
  have htext : l.text = .ok key.text := keyOf?_eq_some_iff.mp hl
  simp [File.ofMembers, htext, Key.ofText?_eq_some_iff.mpr rfl, hnew, set_error_of_check file hc,
    bind, Except.bind]

/-- In a file that is read every member is read. -/
theorem reads_of_ofMembers (hf : file.ofMembers seen members = .ok file') (hin : member ∈ members) :
    ∃ file seen next now, Reads file seen member next now := by
  induction members generalizing file seen with
  | nil => cases hin
  | cons first members ih =>
    obtain ⟨next, now, hr, hf⟩ := ofMembers_cons_iff.mp hf
    rcases List.mem_cons.mp hin with rfl | hin
    · exact ⟨file, seen, next, now, hr⟩
    · exact ih hf hin

theorem text_of_reads (h : Reads file seen member file' seen') :
    ∃ name, member.1.text = .ok name := by
  cases h with
  | other hl => exact ⟨_, hl⟩
  | known hl => exact ⟨_, hl⟩

theorem check_of_reads (h : Reads file seen member file' seen') (hk : keyOf? member = some key) :
    key.kind.check member.2 = .ok () := by
  have hl := keyOf?_eq_some_iff.mp hk
  cases h with
  | other hl' hnone => exact absurd (Except.ok.inj (hl.symm.trans hl')) (hnone key)
  | @known key' next hl' _ hset =>
    obtain rfl : key = key' := Key.text_inj (Except.ok.inj (hl.symm.trans hl'))
    rw [check_eq file, hset]
    rfl

theorem isPresent_of_text {held : Option Tree} {text : String} (h : textOf held = some text) :
    isPresent held = true := by
  cases held with
  | none => cases h
  | some tree => cases tree <;> first | rfl | cases h

theorem pairsOf_eq (tree : Tree) :
    pairsOf (some tree) = Json.written (depthLimit - 2) (innerOf tree) := by
  cases tree <;> rfl

theorem nestedKey?_of_flat (h : ∀ inner ∈ innerOf tree, inner.2.isNested = false) :
    nestedKey? (pairsOf (some tree)) = none := by
  rw [nestedKey?_eq_none_iff]
  intro name value hlookup
  have hin := List.mem_reverse.mp (mem_of_lookup hlookup)
  rw [pairsOf_eq, Json.mem_written] at hin
  obtain ⟨inner, hin, -, hv⟩ := hin
  rw [Json.isNested_of_value hv, h inner hin]

/-- Where no name is repeated, no later value can take the place of a list or an object. -/
theorem nestedKey?_of_nested (hl : tree.Legible (depthLimit - 1))
    (hn : (namesOf (innerOf tree)).Nodup)
    (hin : member ∈ innerOf tree) (hm : member.2.isNested = true) :
    nestedKey? (pairsOf (some tree)) ≠ none := by
  have hroom : depthLimit - 1 = depthLimit - 2 + 1 := rfl
  rw [hroom] at hl
  rw [ne_eq, nestedKey?_eq_none_iff]
  intro hflat
  cases tree with
  | object inner ending =>
    have hinner := Json.exists_memberValues_iff.mp (Json.legible_object_iff.mp hl).1
    obtain ⟨⟨name, htext⟩, value, hv⟩ := hinner member hin
    have hpair : (name, value) ∈ (pairsOf (some (.object inner ending))).reverse :=
      List.mem_reverse.mpr (Json.mem_written.mpr ⟨member, hin, htext, hv⟩)
    have hnodup : ((pairsOf (some (.object inner ending))).reverse.map (·.1)).Nodup := by
      rw [List.map_reverse, List.nodup_reverse]
      exact hn.sublist (Json.names_written_sublist _ inner)
    have hvalue := hflat name value (lookup_of_mem hnodup hpair)
    rw [Json.isNested_of_value hv, hm] at hvalue
    cases hvalue
  | _ => cases hin

section OneMistyped

variable (h : OneMistyped raw members key tree)
include h

theorem OneMistyped.passes (hr : Readable members) (hin : member ∈ members)
    (hc : keyOf? member = some key → key.kind.Admits member.2) : Passes member where
  named := hr.names member hin
  whole := h.whole member hin
  fits other hk := by
    have hheld := memberOf_of_mem h.once hin hk
    have hl := hr.values other member.2 hheld
    by_cases he : other = key
    · subst he
      exact check_of_admits (hc hk) hl
    · have hother := h.only other member.2 he hheld
      rw [Mistyped, not_or, not_not] at hother
      exact check_of_admits hother.1 hl

/-- Another type is reported without the key. -/
theorem OneMistyped.parse_wrongType (hr : Readable members) (ha : ¬ key.kind.Admits tree) :
    ∃ got, parse raw = .error (.parse (.wrongType got (key.kind.wanted tree))) := by
  obtain ⟨got, hgot⟩ := check_error ha (hr.values key tree h.held)
  obtain ⟨before, l, behind, rfl, hk⟩ := split_of_memberOf h.held
  have hn := h.once
  rw [List.filterMap_append, List.filterMap_cons_some hk, List.nodup_middle, List.nodup_cons,
    List.mem_append, not_or] at hn
  obtain ⟨⟨hnew, -⟩, hn⟩ := hn
  -- No value in front of it is of a wrong type, so that its fault is the first.
  have hpasses : ∀ member ∈ before, Passes member := by
    refine fun member hin => h.passes hr (List.mem_append_left _ hin) fun hkey => ?_
    exact absurd (List.mem_filterMap.mpr ⟨member, hin, hkey⟩) hnew
  obtain ⟨next, now, hnow, hrest⟩ := ofMembers_passes .blank [] hpasses
    (by simpa using hn.of_append_left)
  have hkey : key ∉ now := fun hin => hnew (by simpa using (hnow key).mp hin)
  refine ⟨got, ?_⟩
  rw [parse, read_of_isObject h.object, hrest, ofMembers_fault hk hkey hgot]

/-- A value of the declared type can only be wrong inside, among the arguments or headers. -/
theorem OneMistyped.nested (ha : key.kind.Admits tree) : (key = .arguments ∨ key = .headers) ∧
    ∃ inner ∈ innerOf tree, inner.2.isNested = true := by
  obtain ⟨inner, hin, hnested⟩ := h.mistyped.resolve_left (not_not_intro ha)
  refine ⟨?_, inner, hin, hnested⟩
  cases tree with
  | object inner ending => cases key <;> first | exact .inl rfl | exact .inr rfl | cases ha
  | _ => cases hin

/-- Only what is nested in the one value can be a fault. -/
theorem OneMistyped.firstFault (hkey : key = .arguments ∨ key = .headers) :
    firstFault? (.object members none) = nested? (.object members none) key := by
  have hgiven (key : Key) : given (.object members none) key = memberOf members key := rfl
  have hpresent (key : Key) (hp : isPresent (memberOf members key) = true) :
      missing? (.object members none) key = none := by
    rw [missing?, hgiven, hp, if_pos rfl]
  have hstring {key : Key} (hs : ∃ l, memberOf members key = some (.string l)) :
      isPresent (memberOf members key) = true := by
    obtain ⟨l, hl⟩ := hs
    rw [hl]
    rfl
  have htext : isPresent (memberOf members .requestType) = true := by
    rcases h.method with hm | hm <;> exact isPresent_of_text hm
  have hmethod : wrongMethod? (.object members none) = none := by
    rcases h.method with hm | hm <;> rw [wrongMethod?, hgiven, hm] <;> rfl
  have hflat (other : Key) (hne : other ≠ key) : nested? (.object members none) other = none := by
    rw [nested?, hgiven, Option.map_eq_none_iff]
    cases hheld : memberOf members other with
    | none => rfl
    | some held =>
      refine nestedKey?_of_flat fun inner hin => ?_
      have hother := (not_or.mp (h.only other held hne hheld)).2
      exact Bool.eq_false_of_not_eq_true fun hnested => hother ⟨inner, hin, hnested⟩
  rw [firstFault?, hpresent .name (hstring h.name), hpresent .requestType htext, hmethod,
    hpresent .requestURL (hstring h.address)]
  rcases hkey with rfl | rfl
  · rw [hflat .headers (by decide)]
    cases nested? (.object members none) .arguments <;> rfl
  · rw [hflat .arguments (by decide)]
    cases nested? (.object members none) .headers <;> rfl

/-- A list or an object among the arguments or headers is reported with its key, unless a later
value takes its place. -/
theorem OneMistyped.parse_nested (hr : Readable members) (ha : key.kind.Admits tree) :
    (∃ name, nestedKey? (pairsOf (some tree)) = some name ∧
      parse raw = .error (.invalidField (key.text ++ "." ++ name) "a string")) ∨
    (nestedKey? (pairsOf (some tree)) = none ∧ ¬ (namesOf (innerOf tree)).Nodup ∧
      ∃ provider, parse raw = .ok provider) := by
  obtain ⟨hkey, inner, hin, hnested⟩ := h.nested ha
  have hpasses : ∀ member ∈ members, Passes member := by
    refine fun member hin => h.passes hr hin fun hk => ?_
    have hheld := memberOf_of_mem h.once hin hk
    rw [h.held, Option.some.injEq] at hheld
    exact hheld ▸ ha
  obtain ⟨file, now, -, hrest⟩ := ofMembers_passes .blank [] hpasses (by simpa using h.once)
  have hf : File.blank.ofMembers [] members = .ok file := by simpa [File.ofMembers] using hrest []
  have hhas (key : Key) : file.Has (given (.object members none) key) key :=
    (has_ofMembers hf).2 List.not_mem_nil (has_blank key)
  have hparse : parse raw = ofFile file := by rw [parse, read_of_isObject h.object, hf]
  have hgiven : given (.object members none) key = some tree := h.held
  have hjudged := judged_ofFile hhas
  rw [h.firstFault hkey, nested?, hgiven] at hjudged
  rw [hparse]
  cases hname : nestedKey? (pairsOf (some tree)) with
  | some name =>
    rw [hname] at hjudged
    exact .inl ⟨name, rfl, hjudged⟩
  | none =>
    rw [hname] at hjudged
    obtain ⟨provider, hok, -⟩ := hjudged
    have hrepeated : ¬ (namesOf (innerOf tree)).Nodup :=
      fun hn => nestedKey?_of_nested (hr.values key tree h.held) hn hin hnested hname
    exact .inr ⟨rfl, hrepeated, provider, hok⟩

/-- What cannot be read at all is a fault of the text. -/
theorem OneMistyped.parse_unreadable (hr : ¬ Readable members) :
    ∃ fault, parse raw = .error (.parse fault) := by
  rw [parse, read_of_isObject h.object]
  cases hf : File.blank.ofMembers [] members with
  | error fault => exact ⟨fault, rfl⟩
  | ok file =>
    refine absurd ⟨fun member hin => ?_, fun key held hheld => ?_⟩ hr
    · obtain ⟨_, _, _, _, hreads⟩ := reads_of_ofMembers hf hin
      exact text_of_reads hreads
    · obtain ⟨before, l, behind, hsplit, hk⟩ := split_of_memberOf hheld
      have hin : (l, held) ∈ members := by simp [hsplit]
      obtain ⟨_, _, _, _, hreads⟩ := reads_of_ofMembers hf hin
      exact (admits_of_check (check_of_reads hreads hk)).2

/-- Another type is a fault of the text in any case. -/
theorem OneMistyped.parse_fault (ha : ¬ key.kind.Admits tree) :
    ∃ fault, parse raw = .error (.parse fault) := by
  by_cases hr : Readable members
  · obtain ⟨got, hparse⟩ := h.parse_wrongType hr ha
    exact ⟨_, hparse⟩
  · exact h.parse_unreadable hr

end OneMistyped

/-- A single optional value of the wrong type is reported with its key just if it is a list or an
object among the arguments or headers whose place no later value takes. Otherwise the error is that
of a text which cannot be read, and tells at most the types. -/
theorem mistyped_reported (h : OneMistyped raw members key tree) :
    (Readable members → key.kind.Admits tree →
      (∃ name, nestedKey? (pairsOf (some tree)) = some name ∧
        parse raw = .error (.invalidField (key.text ++ "." ++ name) "a string")) ∨
      (nestedKey? (pairsOf (some tree)) = none ∧ ¬ (namesOf (innerOf tree)).Nodup ∧
        ∃ provider, parse raw = .ok provider)) ∧
    (Readable members → ¬ key.kind.Admits tree →
      ∃ got, parse raw = .error (.parse (.wrongType got (key.kind.wanted tree)))) ∧
    (¬ Readable members → ∃ fault, parse raw = .error (.parse fault)) :=
  ⟨h.parse_nested, h.parse_wrongType, h.parse_unreadable⟩

theorem keyOf?_literal (key : Key) (tree : Tree) : keyOf? (literal key.text, tree) = some key :=
  keyOf?_eq_some_iff.mpr (text_literal _)

/-- The least that a file has to hold, and one more member. -/
def extended (key : Key) (tree : Tree) : List (Literal × Tree) :=
  leastMembers ++ [(literal key.text, tree)]

theorem memberOf_extended (key other : Key) (tree : Tree) : memberOf (extended key tree) other =
    if .name = other then some (.string (literal "n"))
    else if .requestType = other then some (.string (literal "GET"))
    else if .requestURL = other then some (.string (literal "u"))
    else if key = other then some tree else none := by
  simp only [extended, leastMembers, List.cons_append, List.nil_append, memberOf_cons_eq,
    keyOf?_literal, Option.some.injEq]
  rfl

theorem not_mistyped_string {l : Literal} (hk : key.kind = .text) : ¬ Mistyped key (.string l) := by
  rintro (ha | ⟨inner, hin, -⟩)
  · exact ha (hk ▸ .text)
  · cases hin

theorem oneMistyped_extended (ho : IsObject raw (extended key tree)) (hk : key.required = false)
    (hw : tree.Whole) (hm : Mistyped key tree) : OneMistyped raw (extended key tree) key tree where
  object := ho
  whole := by
    simp only [extended, leastMembers, List.cons_append, List.nil_append, List.forall_mem_cons]
    exact ⟨.string rfl, .string rfl, .string rfl, hw, by simp⟩
  once := by
    simp only [extended, leastMembers, List.cons_append, List.nil_append, List.filterMap_cons,
      keyOf?_literal, List.filterMap_nil]
    revert hk
    clear ho hm
    cases key <;> decide
  name := by simp [memberOf_extended]
  method := by simp [memberOf_extended, textOf, text_literal, Except.toOption]
  address := by simp [memberOf_extended]
  optional := hk
  held := by
    revert hk
    clear ho hm
    cases key <;> simp [memberOf_extended, Key.required]
  mistyped := hm
  only other held hne hheld := by
    rw [memberOf_extended, if_neg (Ne.symm hne)] at hheld
    split_ifs at hheld with hname hmethod haddress <;> cases hheld
    · exact not_mistyped_string (hname ▸ rfl)
    · exact not_mistyped_string (hmethod ▸ rfl)
    · exact not_mistyped_string (haddress ▸ rfl)

theorem readable_extended (hl : tree.Legible (depthLimit - 1)) : Readable (extended key tree) where
  names := by
    simp only [extended, leastMembers, List.cons_append, List.nil_append, List.forall_mem_cons,
      text_literal]
    simp
  values other held hheld := by
    have hstring (text : String) : (Tree.string (literal text)).Legible (depthLimit - 1) :=
      legible_string_iff.mpr ⟨text, text_literal text⟩
    rw [memberOf_extended] at hheld
    split_ifs at hheld <;> cases hheld
    · exact hstring "n"
    · exact hstring "GET"
    · exact hstring "u"
    · exact hl

/-- A switch that is a text. -/
def misflagged : Text.Bytes := Text.encode
  ("\x7b\"Name\":\"n\",\"RequestType\":\"GET\",\"RequestURL\":\"u\",\"DataOnly\":\"yes\"\x7d")

/-- Not every value of a wrong type is reported with its key. -/
theorem mistyped_unnamed : ¬ ∀ raw members key tree, OneMistyped raw members key tree →
    ∃ field expected, parse raw = .error (.invalidField field expected) ∧
      (field = key.text ∨ ∃ inner, field = key.text ++ "." ++ inner) := by
  intro hall
  have ho : IsObject misflagged (extended .dataOnly (.string (literal "yes"))) := by
    unfold IsObject
    decide +kernel
  have ha : ¬ Key.dataOnly.kind.Admits (.string (literal "yes")) := by rintro ⟨⟩
  have hone := oneMistyped_extended ho rfl (.string rfl) (.inl ha)
  obtain ⟨field, expected, hparse, -⟩ := hall _ _ _ _ hone
  obtain ⟨fault, hfault⟩ := hone.parse_fault ha
  cases hparse.symm.trans hfault

/-- An object among the arguments. -/
def misnested : Text.Bytes := Text.encode
  ("\x7b\"Name\":\"n\",\"RequestType\":\"GET\",\"RequestURL\":\"u\"," ++
    "\"Arguments\":\x7b\"a\":\x7b\x7d\x7d\x7d")

def boxed : Tree := .object [(literal "a", .object [] none)] none

theorem mistyped_nested : ∃ members, OneMistyped misnested members .arguments boxed ∧
    Readable members ∧ Key.arguments.kind.Admits boxed ∧
    parse misnested = .error (.invalidField "Arguments.a" "a string") := by
  have ho : IsObject misnested (extended .arguments boxed) := by
    unfold IsObject
    decide +kernel
  have hw : boxed.Whole := by
    refine .object (by simp [literal]) ?_
    rw [List.forall_mem_singleton]
    exact .object (by simp) (by simp)
  have hlegible : boxed.Legible (depthLimit - 2 + 1) := by
    refine Json.legible_object_iff.mpr ⟨Json.exists_memberValues_iff.mpr ?_, rfl⟩
    rw [List.forall_mem_singleton]
    exact ⟨⟨"a", text_literal "a"⟩, .object [], rfl⟩
  have hnested : nestedKey? (pairsOf (some boxed)) = some "a" := by decide +kernel
  have hone := oneMistyped_extended ho rfl hw (.inr ⟨_, List.mem_singleton_self _, rfl⟩)
  have hreadable : Readable (extended .arguments boxed) := readable_extended hlegible
  rcases (mistyped_reported hone).1 hreadable .object with ⟨name, hname, hparse⟩ | ⟨hnone, -⟩
  · obtain rfl : "a" = name := Option.some.inj (hnested.symm.trans hname)
    exact ⟨_, hone, hreadable, .object, hparse⟩
  · rw [hnested] at hnone
    cases hnone

end LinkShot.Provider
