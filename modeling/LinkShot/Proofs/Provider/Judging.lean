import LinkShot.Proofs.Json.Within
import LinkShot.Proofs.OrderedMap.Keys
import LinkShot.Proofs.Provider.Contents
import Mathlib.Data.List.Find

/-!
How definition files are judged. A file that can be read is accepted just if nothing is wrong with
what it holds for its keys; otherwise the first fault is reported, in a fixed order, whatever else
is wrong.
-/
namespace LinkShot.Provider

open Json (Tree Value)

variable {file : File} {tree : Tree} {key : Key} {pairs members : List (String × Value)}
  {map : OrderedMap} {field : String} {value : Value}

/-- The text that a value stands for among arguments and headers: strings as they are, null nothing,
numbers and booleans their JSON text. -/
def memberText : Value → String
  | .string s => s
  | .null => ""
  | value => value.text

def missing? (tree : Tree) (key : Key) : Option Error :=
  if isPresent (given tree key) then none else some (.missingField key)

def wrongMethod? (tree : Tree) : Option Error :=
  (textOf (given tree .requestType)).bind fun text =>
    if text = "GET" ∨ text = "POST" then none else some (.invalidMethod text)

/-- The first key whose last value is a list or an object. -/
def nestedKey? (pairs : List (String × Value)) : Option String :=
  (pairs.map (·.1)).eraseDups.find? fun name => (pairs.reverse.lookup name).any (·.isNested)

def nested? (tree : Tree) (key : Key) : Option Error :=
  (nestedKey? (pairsOf (given tree key))).map fun name =>
    .invalidField (key.text ++ "." ++ name) "a string"

/-- The faults that a file may have, those that come first first. -/
def firstFault? (tree : Tree) : Option Error :=
  [missing? tree .name, missing? tree .requestType, wrongMethod? tree, missing? tree .requestURL,
    nested? tree .arguments, nested? tree .headers].findSome? id

/-- What a file has to hold. -/
structure Acceptable (tree : Tree) : Prop where
  required : ∀ key ∈ [Key.name, .requestType, .requestURL], isPresent (given tree key) = true
  method : textOf (given tree .requestType) = some "GET" ∨
    textOf (given tree .requestType) = some "POST"
  flat : ∀ key ∈ [Key.arguments, .headers], ∀ name value,
    (pairsOf (given tree key)).reverse.lookup name = some value → value.isNested = false

/-- The provider is what the file holds, with the defaults for what it does not. -/
structure Described (tree : Tree) (provider : Provider) : Prop where
  name : textOf (given tree .name) = some provider.name
  method : textOf (given tree .requestType) = some provider.method.text
  address : textOf (given tree .requestURL) = some provider.address
  fileField : provider.fileField = textOf (given tree .fileFormName)
  dataOnly : provider.dataOnly = (flagOf (given tree .dataOnly)).getD false
  multiline : provider.multiline = (flagOf (given tree .multiline)).getD false
  arguments : Latest ((pairsOf (given tree .arguments)).map fun p => (p.1, memberText p.2))
    provider.arguments.entries
  headers : Latest ((pairsOf (given tree .headers)).map fun p => (p.1, memberText p.2))
    provider.headers.entries
  patterns : provider.patterns = textsOf (given tree .regexList)
  template : provider.template = textOf (given tree .url)
  source : provider.source = none

theorem scalarText?_eq :
    scalarText? value = if value.isNested then none else some (memberText value) := by
  cases value with
  | bool b => cases b <;> rfl
  | number n =>
    have htext : Value.text (.number n) = n.text := String.ofList_toList
    simp [scalarText?, Value.isNested, memberText, htext]
  | _ => rfl

theorem stringMap_eq (hn : (map.keys ++ members.map (·.1)).Nodup) :
    stringMap field map members = match members.find? (fun m => m.2.isNested) with
      | some member => .error (.invalidField (field ++ "." ++ member.1) "a string")
      | none => .ok ⟨map.entries ++ members.map fun m => (m.1, memberText m.2)⟩ := by
  induction members generalizing map with
  | nil => simp [stringMap]
  | cons member rest ih =>
    obtain ⟨key, value⟩ := member
    rw [stringMap, scalarText?_eq, List.find?_cons]
    cases hv : value.isNested with
    | true => rfl
    | false =>
      have hnew : key ∉ map.keys := by
        intro hin
        rw [List.map_cons, List.nodup_middle, List.nodup_cons] at hn
        exact hn.1 (List.mem_append_left _ hin)
      have hinsert : (map.insert key (memberText value)).entries =
          map.entries ++ [(key, memberText value)] := OrderedMap.entries_insert_of_new hnew
      have hkeys : (map.insert key (memberText value)).keys = map.keys ++ [key] := by
        simp [OrderedMap.keys, hinsert]
      simp only [Bool.false_eq_true, if_false]
      rw [ih (by simpa [hkeys] using hn), hinsert]
      simp

theorem nestedKey?_eq (h : Latest pairs members) :
    nestedKey? pairs = (members.find? fun m => m.2.isNested).map (·.1) := by
  rw [nestedKey?, ← h.keys, List.find?_map]
  refine congrArg _ (List.find?_congr fun m hm => ?_)
  simp [← h.values, lookup_of_mem h.nodup hm]

/-- A step that fails if there is a fault, and otherwise gives a result as it is expected. -/
def Judged {α : Type} (fault? : Option Error) (step : Except Error α) (expected : α → Prop) :
    Prop :=
  match fault? with
  | some error => step = .error error
  | none => ∃ a, step = .ok a ∧ expected a

/-- Of the faults of steps in a row the first counts. -/
theorem Judged.bind {α β : Type} {fault? : Option Error} {faults : List (Option Error)}
    {step : Except Error α} {next : α → Except Error β} {expected : α → Prop} {final : β → Prop}
    (hstep : Judged fault? step expected)
    (hnext : ∀ a, expected a → Judged (faults.findSome? id) (next a) final) :
    Judged ((fault? :: faults).findSome? id) (step >>= next) final := by
  cases fault? with
  | some error =>
    have hstep : step = .error error := hstep
    rw [hstep]
    rfl
  | none =>
    obtain ⟨a, rfl, ha⟩ := hstep
    exact hnext a ha

theorem judged_orMissing {held : Option String} (h : held = textOf (given tree key))
    (hp : held.isSome = isPresent (given tree key)) :
    Judged (missing? tree key) (orMissing key held)
      fun text => textOf (given tree key) = some text := by
  rw [missing?, ← hp]
  cases held with
  | none => rfl
  | some text => exact ⟨text, rfl, h.symm⟩

theorem judged_methodOf {text : String} (h : textOf (given tree .requestType) = some text) :
    Judged (wrongMethod? tree) (methodOf text) fun method => method.text = text := by
  rw [wrongMethod?, h, Option.bind_some, methodOf]
  by_cases hget : text = "GET"
  · subst hget
    exact ⟨.get, rfl, rfl⟩
  · by_cases hpost : text = "POST"
    · subst hpost
      exact ⟨.post, rfl, rfl⟩
    · simp [Judged, hget, hpost]

/-- Members become texts, up to the first that is a list or an object. -/
theorem judged_stringMap (h : Latest (pairsOf (given tree key)) members) :
    Judged (nested? tree key) (stringMap key.text .empty members) fun map =>
      Latest ((pairsOf (given tree key)).map fun p => (p.1, memberText p.2)) map.entries := by
  have hn : (OrderedMap.empty.keys ++ members.map (·.1)).Nodup := h.nodup
  rw [nested?, nestedKey?_eq h, stringMap_eq hn]
  cases members.find? fun m => m.2.isNested with
  | some member => rfl
  | none => exact ⟨_, rfl, h.map memberText⟩

/-- What a file comes to is decided by its first fault. -/
theorem judged_ofFile (h : ∀ key, file.Has (given tree key) key) :
    Judged (firstFault? tree) (ofFile file) (Described tree) := by
  refine (judged_orMissing (h .name).1 (h .name).2).bind fun name hname => ?_
  refine (judged_orMissing (h .requestType).1 (h .requestType).2).bind fun text htext => ?_
  refine (judged_methodOf htext).bind fun method hmethod => ?_
  refine (judged_orMissing (h .requestURL).1 (h .requestURL).2).bind fun address haddress => ?_
  refine (judged_stringMap (h .arguments)).bind fun arguments harguments => ?_
  refine (judged_stringMap (h .headers)).bind fun headers hheaders => ⟨_, rfl, ?_⟩
  exact {
    name := hname
    method := htext.trans (congrArg some hmethod.symm)
    address := haddress
    fileField := h .fileFormName
    dataOnly := congrArg (Option.getD · false) (h .dataOnly)
    multiline := congrArg (Option.getD · false) (h .multiline)
    arguments := harguments
    headers := hheaders
    patterns := h .regexList
    template := h .url
    source := rfl }

theorem described_of_ofFile {provider : Provider} (h : ∀ key, file.Has (given tree key) key)
    (hok : ofFile file = .ok provider) : Described tree provider := by
  have hjudged := judged_ofFile h
  cases hfault : firstFault? tree with
  | some fault =>
    rw [hfault] at hjudged
    cases hok.symm.trans hjudged
  | none =>
    rw [hfault] at hjudged
    obtain ⟨found, hfound, hdescribed⟩ := hjudged
    obtain rfl := Except.ok.inj (hok.symm.trans hfound)
    exact hdescribed

theorem missing?_eq_none_iff : missing? tree key = none ↔ isPresent (given tree key) = true := by
  simp [missing?]

theorem nestedKey?_eq_none_iff : nestedKey? pairs = none ↔
    ∀ name value, pairs.reverse.lookup name = some value → value.isNested = false := by
  rw [nestedKey?, List.find?_eq_none]
  constructor
  · intro h name value hv
    have hin : (name, value) ∈ pairs := List.mem_reverse.mp (mem_of_lookup hv)
    simpa [hv] using h name (List.mem_eraseDups.mpr (List.mem_map_of_mem hin))
  · intro h name _
    cases hv : pairs.reverse.lookup name with
    | none => simp
    | some value => simp [h name value hv]

theorem wrongMethod?_eq_none_iff (h : (textOf (given tree .requestType)).isSome) :
    wrongMethod? tree = none ↔ textOf (given tree .requestType) = some "GET" ∨
      textOf (given tree .requestType) = some "POST" := by
  obtain ⟨text, ht⟩ := Option.isSome_iff_exists.mp h
  simp [wrongMethod?, ht, or_iff_not_imp_left]

/-- A file without faults is one that holds what it has to. -/
theorem firstFault?_eq_none_iff
    (h : (textOf (given tree .requestType)).isSome = isPresent (given tree .requestType)) :
    firstFault? tree = none ↔ Acceptable tree := by
  simp only [firstFault?, List.findSome?_eq_none_iff, List.forall_mem_cons, id,
    missing?_eq_none_iff, nested?, Option.map_eq_none_iff, nestedKey?_eq_none_iff]
  constructor
  · rintro ⟨hname, hmethod, hw, haddress, ha, hh, -⟩
    exact ⟨by simp [*], (wrongMethod?_eq_none_iff (h.trans hmethod)).mp hw, by simpa using ⟨ha, hh⟩⟩
  · rintro ⟨hrequired, hmethod, hflat⟩
    simp only [List.forall_mem_cons] at hrequired hflat
    obtain ⟨hname, hpresent, haddress, -⟩ := hrequired
    obtain ⟨ha, hh, -⟩ := hflat
    exact ⟨hname, hpresent, (wrongMethod?_eq_none_iff (h.trans hpresent)).mpr hmethod, haddress,
      ha, hh, by simp⟩

/-- A file that can be read is a provider just if it holds what it has to, and then the provider it
describes; what else it comes to is its first fault. -/
theorem judged_by_first_fault {raw : Text.Bytes} (h : File.read raw = .ok file) :
    (∀ error, parse raw = .error error ↔ firstFault? (Json.readText raw).1 = some error) ∧
    ((∃ provider, parse raw = .ok provider) ↔ Acceptable (Json.readText raw).1) ∧
    ∀ provider, parse raw = .ok provider → Described (Json.readText raw).1 provider := by
  have hparse : parse raw = ofFile file := by rw [parse, h]
  have hhas := has_ofTree (Json.tree_of_readWith h)
  obtain ⟨hmethod, hgiven⟩ := hhas .requestType
  have hjudged := judged_ofFile hhas
  rw [hparse, ← firstFault?_eq_none_iff (hmethod ▸ hgiven)]
  cases hfault : firstFault? (Json.readText raw).1 with
  | some fault =>
    rw [hfault] at hjudged
    have herror : ofFile file = .error fault := hjudged
    simp [herror]
  | none =>
    rw [hfault] at hjudged
    obtain ⟨provider, hok, hdescribed⟩ := hjudged
    simp [hok, hdescribed]

/-- An argument written twice, first as a list and then as a number. -/
def rewritten : Text.Bytes := Text.encode
  ("\x7b\"Name\":\"n\",\"RequestType\":\"GET\",\"RequestURL\":\"u\"," ++
    "\"Arguments\":\x7b\"a\":[1],\"b\":null,\"a\":2\x7d\x7d")

theorem judged_rewritten : (∃ file, File.read rewritten = .ok file) ∧
    ∃ provider, parse rewritten = .ok provider ∧ Described (Json.readText rewritten).1 provider ∧
      provider.arguments.entries = [("a", "2"), ("b", "")] := by
  have hread : (File.read rewritten).toOption.isSome := by decide +kernel
  have harguments : (parse rewritten).toOption.map (·.arguments.entries) =
      some [("a", "2"), ("b", "")] := by decide +kernel
  obtain ⟨file, hfile⟩ := Option.isSome_iff_exists.mp hread
  have hfile := toOption_eq_some_iff.mp hfile
  obtain ⟨provider, hprovider, hentries⟩ := Option.map_eq_some_iff.mp harguments
  have hprovider := toOption_eq_some_iff.mp hprovider
  exact ⟨⟨file, hfile⟩, provider, hprovider, (judged_by_first_fault hfile).2.2 _ hprovider,
    hentries⟩

end LinkShot.Provider
