import LinkShot.Proofs.Json.Trees
import LinkShot.Proofs.Provider.Judging

/-!
The types of the values that a definition file has for its keys. A value is read for a key just if
it is null or of the declared type and can be read at all; any other is a fault that tells the two
types.
-/
namespace LinkShot.Provider

open Json (Tree Literal Value Fault Break depthLimit)

/-- The types that are declared for the values of keys. -/
inductive Kind where
  | text
  | flag
  | object
  | texts
  deriving DecidableEq, Repr

def Key.kind : Key → Kind
  | .dataOnly | .multiline => .flag
  | .arguments | .headers => .object
  | .regexList => .texts
  | _ => .text

variable {key : Key} {kind : Kind} {tree : Tree} {items : List Tree} {fault : Fault} {room : Nat}

/-- Null, or a value of the declared type. -/
inductive Kind.Admits : Kind → Tree → Prop
  | null {kind : Kind} : Admits kind .null
  | text {l : Literal} : Admits .text (.string l)
  | flag {b : Bool} : Admits .flag (.bool b)
  | object {members : List (Literal × Tree)} {ending : Option Break} :
    Admits .object (.object members ending)
  | texts {items : List Tree} {ending : Option Break} : (∀ item ∈ items, ∃ l, item = .string l) →
    Admits .texts (.array items ending)

/-- What a value of another type should have been. -/
def Kind.wanted : Kind → Tree → String
  | .text, _ => "a string"
  | .flag, _ => "a boolean"
  | .object, _ => "a map"
  | .texts, .array _ _ => "a string"
  | .texts, _ => "a sequence"

/-- Reading a value of the declared type, whatever it is read for. -/
def Kind.check : Kind → Tree → Except Fault Unit
  | .text, tree => (orNull readString tree).map fun _ => ()
  | .flag, tree => (orNull readBool tree).map fun _ => ()
  | .object, tree => (orNull readMembers tree).map fun _ => ()
  | .texts, tree => (orNull readStrings tree).map fun _ => ()

theorem check_eq (file : File) (key : Key) (tree : Tree) :
    key.kind.check tree = (file.set key tree).map fun _ => () := by
  have hmap {α β : Type} (x : Except Fault α) (f : α → β) :
      (x.map f).map (fun _ => ()) = x.map fun _ => () := by cases x <;> rfl
  cases key <;> exact (hmap _ _).symm

theorem set_of_check (file : File) (h : key.kind.check tree = .ok ()) :
    ∃ next, file.set key tree = .ok next := by
  rw [check_eq file] at h
  obtain ⟨next, hset, -⟩ := map_eq_ok_iff.mp h
  exact ⟨next, hset⟩

theorem set_error_of_check (file : File) (h : key.kind.check tree = .error fault) :
    file.set key tree = .error fault := by
  rw [check_eq file] at h
  cases hset : file.set key tree with
  | ok next => simp [hset, Except.map] at h
  | error fault' => simpa [hset, Except.map] using h

theorem legible_string_iff {l : Literal} : (Tree.string l).Legible room ↔
    ∃ text, readString (.string l) = .ok text := by
  simp only [Tree.Legible, Tree.value, map_eq_ok_iff, readString]
  constructor
  · rintro ⟨_, text, htext, -⟩
    exact ⟨text, htext⟩
  · rintro ⟨text, htext⟩
    exact ⟨_, text, htext, rfl⟩

/-- A value of the declared type is read if it can be read at all. -/
theorem check_of_admits (ha : kind.Admits tree) (hl : tree.Legible (depthLimit - 1)) :
    kind.check tree = .ok () := by
  have hroom : depthLimit - 1 = depthLimit - 2 + 1 := rfl
  rw [hroom] at hl
  cases ha with
  | null => cases kind <;> rfl
  | text =>
    obtain ⟨text, htext⟩ := legible_string_iff.mp hl
    simp [Kind.check, orNull, htext, Except.map]
  | flag => rfl
  | object =>
    obtain ⟨⟨values, hvalues⟩, hend⟩ := Json.legible_object_iff.mp hl
    simp [Kind.check, orNull, readMembers, hvalues, hend, Except.map, bind, Except.bind, pure,
      Except.pure]
  | @texts items ending hi =>
    obtain ⟨hitems, hend⟩ := Json.legible_array_iff.mp hl
    have hread : ∀ item ∈ items, ∃ text, readString item = .ok text := by
      intro item hin
      obtain ⟨l, rfl⟩ := hi item hin
      exact legible_string_iff.mp (hitems _ hin)
    obtain ⟨texts, htexts⟩ := exists_mapM_iff.mpr hread
    simp [Kind.check, orNull, readStrings, htexts, hend, Except.map, bind, Except.bind, pure,
      Except.pure]

/-- What is read for a key has the declared type, and could be read for any other purpose. -/
theorem admits_of_check (h : kind.check tree = .ok ()) :
    kind.Admits tree ∧ tree.Legible (depthLimit - 1) := by
  have hroom : depthLimit - 1 = depthLimit - 2 + 1 := rfl
  rw [hroom]
  cases kind <;>
    (obtain ⟨r, hr, -⟩ := map_eq_ok_iff.mp h; rcases null_or_read hr with ⟨rfl, -⟩ | ⟨a, ha, -⟩)
  case text.inr =>
    obtain ⟨l, rfl, hl⟩ := string_of_read ha
    exact ⟨.text, legible_string_iff.mpr ⟨a, ha⟩⟩
  case flag.inr =>
    rw [bool_of_read ha]
    exact ⟨.flag, .bool a, rfl⟩
  case object.inr =>
    unfold readMembers at ha
    split at ha
    · simp only [bind_eq_ok_iff] at ha
      obtain ⟨read, hread, ⟨⟩, hend, -⟩ := ha
      exact ⟨.object, Json.legible_object_iff.mpr ⟨⟨read, hread⟩, hend⟩⟩
    · cases ha
  case texts.inr =>
    unfold readStrings at ha
    split at ha
    · rename_i items ending
      simp only [bind_eq_ok_iff] at ha
      obtain ⟨texts, htexts, ⟨⟩, hend, -⟩ := ha
      have hread := exists_mapM_iff.mp ⟨texts, htexts⟩
      have hitems (item : Tree) (hin : item ∈ items) :
          (∃ l, item = .string l) ∧ item.Legible (depthLimit - 2) := by
        obtain ⟨text, htext⟩ := hread item hin
        obtain ⟨l, rfl, -⟩ := string_of_read htext
        exact ⟨⟨l, rfl⟩, legible_string_iff.mpr ⟨text, htext⟩⟩
      exact ⟨.texts fun item hin => (hitems item hin).1,
        Json.legible_array_iff.mpr ⟨fun item hin => (hitems item hin).2, hend⟩⟩
    · cases ha
  all_goals exact ⟨.null, .null, rfl⟩

theorem wrongKind_eq (hl : tree.Legible room) :
    ∃ got, ∀ expected, wrongKind expected tree = .wrongType got expected := by
  obtain ⟨value, hv⟩ := hl
  cases tree with
  | number t =>
    obtain ⟨n, hn, -⟩ := map_eq_ok_iff.mp hv
    cases n <;> exact ⟨_, fun _ => by rw [wrongKind, hn]⟩
  | string l =>
    obtain ⟨s, hs, -⟩ := map_eq_ok_iff.mp hv
    exact ⟨_, fun _ => by rw [wrongKind, hs]⟩
  | broken b => cases hv
  | _ => exact ⟨_, fun _ => rfl⟩

theorem mapM_wrong (hi : ¬ ∀ item ∈ items, ∃ l, item = .string l)
    (hl : ∀ item ∈ items, item.Legible room) :
    ∃ got, items.mapM readString = .error (.wrongType got "a string") := by
  induction items with
  | nil => simp at hi
  | cons item items ih =>
    obtain ⟨hitem, hitems⟩ := List.forall_mem_cons.mp hl
    by_cases hs : ∃ l, item = .string l
    · obtain ⟨l, rfl⟩ := hs
      obtain ⟨text, htext⟩ := legible_string_iff.mp hitem
      obtain ⟨got, hgot⟩ := ih (fun h => hi (List.forall_mem_cons.mpr ⟨⟨l, rfl⟩, h⟩)) hitems
      exact ⟨got, by simp [htext, hgot, bind, Except.bind]⟩
    · obtain ⟨got, hgot⟩ := wrongKind_eq hitem
      have hread : readString item = .error (.wrongType got "a string") := by
        unfold readString
        split
        · exact absurd ⟨_, rfl⟩ hs
        · rw [hgot]
      exact ⟨got, by simp [hread, bind, Except.bind]⟩

/-- A value of another type is a fault that tells the types, and nothing more. -/
theorem check_error (ha : ¬ kind.Admits tree) (hl : tree.Legible (depthLimit - 1)) :
    ∃ got, kind.check tree = .error (.wrongType got (kind.wanted tree)) := by
  obtain ⟨got, hgot⟩ := wrongKind_eq hl
  have hnull {α : Type} (read : Tree → Except Fault α) :
      orNull read tree = (read tree).map some := by
    unfold orNull
    split
    · exact absurd .null ha
    · rfl
  cases kind with
  | text => cases tree with
    | string l => exact absurd .text ha
    | _ => exact ⟨got, by rw [Kind.check, hnull]; exact congrArg Except.error (hgot _)⟩
  | flag => cases tree with
    | bool b => exact absurd .flag ha
    | _ => exact ⟨got, by rw [Kind.check, hnull]; exact congrArg Except.error (hgot _)⟩
  | object => cases tree with
    | object members ending => exact absurd .object ha
    | _ => exact ⟨got, by rw [Kind.check, hnull]; exact congrArg Except.error (hgot _)⟩
  | texts => cases tree with
    | array items ending =>
      have hroom : depthLimit - 1 = depthLimit - 2 + 1 := rfl
      rw [hroom] at hl
      obtain ⟨got, hgot⟩ := mapM_wrong (fun hi => ha (.texts hi)) (Json.legible_array_iff.mp hl).1
      exact ⟨got, by rw [Kind.check, hnull, readStrings, hgot]; rfl⟩
    | _ => exact ⟨got, by rw [Kind.check, hnull]; exact congrArg Except.error (hgot _)⟩

end LinkShot.Provider
