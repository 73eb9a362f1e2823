import LinkShot.Proofs.Template.Extraction
import LinkShot.Proofs.Text.Number

/-!
What is looked up in a response. A path leads from a value into its parts, by names in objects and
by numerals in lists; a lookup finds what stands at the end of its path, or tells where the path
breaks off.
-/
namespace LinkShot.Json.Value

open Text (IsNumeral)

variable {v w next : Value} {key : List Char} {keys more taken rest walked : List (List Char)}

/-- A step from an object to the member of a name, or from a list to the item that a numeral
counts. -/
inductive Step : Value → List Char → Value → Prop where
  | member {key : List Char} {next : Value} {before after : List (String × Value)} :
      (∀ m ∈ before, m.1 ≠ String.ofList key) →
      Step (.object (before ++ (String.ofList key, next) :: after)) key next
  | item {key : List Char} {index : Nat} {items : List Value} {next : Value} :
      IsNumeral index key → index < UInt64.size → items[index]? = some next →
      Step (.array items) key next

/-- The path of keys leads from one value to another. -/
inductive Leads : Value → List (List Char) → Value → Prop where
  | here {v : Value} : Leads v [] v
  | step {v next w : Value} {key : List Char} {keys : List (List Char)} :
      Step v key next → Leads next keys w → Leads v (key :: keys) w

/-- The shortest part of a path that leads nowhere. -/
structure Lost (v : Value) (keys taken : List (List Char)) : Prop where
  begins : taken <+: keys
  nowhere : ∀ w, ¬ Leads v taken w
  shortest : ∀ shorter, shorter <+: taken → shorter ≠ taken → ∃ w, Leads v shorter w

theorem step_iff : v.Step key w ↔ v.step? key = some w := by
  constructor
  · intro h
    cases h with
    | member hbefore =>
      exact List.lookup_eq_some_iff.mpr ⟨_, _, rfl, fun m hm => bne_iff_ne.mpr (hbefore m hm).symm⟩
    | item hn hlt hitem =>
      exact Option.bind_eq_some_iff.mpr ⟨_, Text.word64?_eq_some_iff.mpr ⟨hn, hlt⟩, hitem⟩
  · intro h
    cases v with
    | object members =>
      obtain ⟨before, after, rfl, hbefore⟩ := List.lookup_eq_some_iff.mp h
      exact .member fun m hm => (bne_iff_ne.mp (hbefore m hm)).symm
    | array items =>
      obtain ⟨index, hword, hitem⟩ := Option.bind_eq_some_iff.mp h
      obtain ⟨hn, hlt⟩ := Text.word64?_eq_some_iff.mp hword
      exact .item hn hlt hitem
    | _ => cases h

theorem leads_nil_iff : v.Leads [] w ↔ v = w := by
  constructor
  · rintro ⟨⟩
    rfl
  · rintro rfl
    exact .here

theorem leads_cons_iff : v.Leads (key :: keys) w ↔
    ∃ next, v.step? key = some next ∧ next.Leads keys w := by
  constructor
  · rintro (_ | ⟨hs, hl⟩)
    exact ⟨_, step_iff.mp hs, hl⟩
  · rintro ⟨next, hs, hl⟩
    exact .step (step_iff.mpr hs) hl

theorem leads_iff : v.Leads keys w ↔ v.at? keys = some w := by
  induction keys generalizing v with
  | nil => rw [leads_nil_iff, at?_nil, Option.some_inj]
  | cons key keys ih => simp only [leads_cons_iff, at?_cons, Option.bind_eq_some_iff, ih]

theorem leads_append_iff :
    v.Leads (keys ++ more) w ↔ ∃ next, v.Leads keys next ∧ next.Leads more w := by
  induction keys generalizing v with
  | nil => simp [leads_nil_iff]
  | cons key keys ih =>
    simp only [List.cons_append, leads_cons_iff, ih]
    constructor
    · rintro ⟨first, hs, next, hl, hm⟩
      exact ⟨next, ⟨first, hs, hl⟩, hm⟩
    · rintro ⟨next, ⟨first, hs, hl⟩, hm⟩
      exact ⟨first, hs, next, hl, hm⟩

/-- The empty path is never lost. -/
theorem Lost.exists_cons (h : v.Lost (key :: keys) taken) :
    ∃ rest, taken = key :: rest ∧ rest <+: keys := by
  cases taken with
  | nil => exact absurd .here (h.nowhere v)
  | cons k rest =>
    obtain ⟨rfl, hrest⟩ := List.cons_prefix_cons.mp h.begins
    exact ⟨rest, rfl, hrest⟩

theorem lost_cons_of_none (hs : v.step? key = none) :
    v.Lost (key :: keys) taken ↔ taken = [key] := by
  have hnone (rest : List (List Char)) (w : Value) : ¬ v.Leads (key :: rest) w := by
    rw [leads_cons_iff, hs]
    simp
  constructor
  · intro h
    obtain ⟨rest, rfl, -⟩ := h.exists_cons
    by_contra hne
    have hfirst : [key] <+: key :: rest := List.cons_prefix_cons.mpr ⟨rfl, List.nil_prefix⟩
    obtain ⟨w, hw⟩ := h.shortest [key] hfirst (Ne.symm hne)
    exact hnone [] w hw
  · rintro rfl
    refine ⟨List.cons_prefix_cons.mpr ⟨rfl, List.nil_prefix⟩, hnone [], fun shorter hp hne => ?_⟩
    cases shorter with
    | nil => exact ⟨v, .here⟩
    | cons k shorter =>
      obtain ⟨rfl, hrest⟩ := List.cons_prefix_cons.mp hp
      exact absurd (by rw [List.prefix_nil.mp hrest]) hne

theorem lost_cons_of_some (hs : v.step? key = some next) :
    v.Lost (key :: keys) taken ↔ ∃ rest, taken = key :: rest ∧ next.Lost keys rest := by
  have hleads (rest : List (List Char)) (w : Value) :
      v.Leads (key :: rest) w ↔ next.Leads rest w := by
    rw [leads_cons_iff, hs]
    simp
  constructor
  · intro h
    obtain ⟨rest, rfl, hrest⟩ := h.exists_cons
    refine ⟨rest, rfl, hrest, fun w hw => h.nowhere w ((hleads _ _).mpr hw),
      fun shorter hp hne => ?_⟩
    have hlonger : key :: shorter <+: key :: rest := List.cons_prefix_cons.mpr ⟨rfl, hp⟩
    obtain ⟨w, hw⟩ := h.shortest _ hlonger (by simpa using hne)
    exact ⟨w, (hleads _ _).mp hw⟩
  · rintro ⟨rest, rfl, h⟩
    refine ⟨List.cons_prefix_cons.mpr ⟨rfl, h.begins⟩, fun w hw => h.nowhere w ((hleads _ _).mp hw),
      fun shorter hp hne => ?_⟩
    cases shorter with
    | nil => exact ⟨v, .here⟩
    | cons k shorter =>
      obtain ⟨rfl, hrest⟩ := List.cons_prefix_cons.mp hp
      obtain ⟨w, hw⟩ := h.shortest shorter hrest (by simpa using hne)
      exact ⟨w, (hleads _ _).mpr hw⟩

theorem lost_iff : v.Lost keys taken ↔ v.lost? keys = some taken := by
  induction keys generalizing v taken with
  | nil =>
    constructor
    · intro h
      rw [List.prefix_nil.mp h.begins] at h
      exact absurd .here (h.nowhere v)
    · intro h
      simp [lost?] at h
  | cons key keys ih =>
    rw [lost?_cons]
    cases hs : v.step? key with
    | none => rw [lost_cons_of_none hs, Option.some_inj, eq_comm]
    | some next =>
      rw [lost_cons_of_some hs, Option.map_eq_some_iff]
      constructor
      · rintro ⟨rest, rfl, hl⟩
        exact ⟨rest, ih.mp hl, rfl⟩
      · rintro ⟨rest, hl, rfl⟩
        exact ⟨rest, rfl, ih.mpr hl⟩

theorem leads_or_lost (v : Value) (keys : List (List Char)) :
    (∃ w, v.Leads keys w) ∨ ∃ taken, v.Lost keys taken := by
  induction keys generalizing v with
  | nil => exact .inl ⟨v, .here⟩
  | cons key keys ih =>
    cases hs : v.step? key with
    | none => exact .inr ⟨[key], (lost_cons_of_none hs).mpr rfl⟩
    | some next =>
      rcases ih next with ⟨w, hw⟩ | ⟨taken, ht⟩
      · exact .inl ⟨w, .step (step_iff.mpr hs) hw⟩
      · exact .inr ⟨_, (lost_cons_of_some hs).mpr ⟨taken, rfl, ht⟩⟩

/-- A walk goes on from where another one ends. -/
theorem walk_append : v.walk walked (keys ++ more) =
    (v.walk walked keys).bind fun next => next.walk (walked ++ keys) more := by
  induction keys generalizing v walked with
  | nil => simp [walk, Except.bind]
  | cons key keys ih =>
    rw [List.cons_append, walk, walk]
    cases hs : v.step? key with
    | none => rfl
    | some next => simpa using @ih next (walked ++ [key])

end LinkShot.Json.Value

namespace LinkShot.Template

open Json (Value)

variable {root v : Value} {keys taken : List (List Char)} {text : String}

/-- The text that stands for a value: a string itself, and the JSON text of anything else. -/
def Shows (v : Value) (text : String) : Prop :=
  v = .string text ∨ (∀ s, v ≠ .string s) ∧ text = v.text

theorem shows_iff : Shows v text ↔ v.plain = text := by
  cases v <;> simp [Shows, Value.plain, eq_comm]

/-- The keys of a path as messages name it. -/
def pathText (keys : List (List Char)) : String := ",".intercalate (keys.map String.ofList)

theorem lookup_of_leads (h : root.Leads keys v) : lookup root keys = .ok v.plain := by
  rw [lookup_eq, keyText, Value.leads_iff.mp h]

theorem at?_of_lost (h : root.Lost keys taken) : root.at? keys = none := by
  rw [← Option.not_isSome_iff_eq_none, Option.isSome_iff_exists]
  rintro ⟨v, hv⟩
  obtain ⟨more, rfl⟩ := h.begins
  obtain ⟨next, hnext, -⟩ := Value.leads_append_iff.mp (Value.leads_iff.mpr hv)
  exact h.nowhere next hnext

theorem lookup_of_lost (h : root.Lost keys taken) :
    lookup root keys = .error (.missingKey (pathText taken)) := by
  rw [lookup_eq, keyText, at?_of_lost h, Value.lost_iff.mp h]
  rfl

theorem lookup_eq_ok_iff : lookup root keys = .ok text ↔ ∃ v, root.Leads keys v ∧ Shows v text := by
  constructor
  · intro h
    rcases root.leads_or_lost keys with ⟨v, hv⟩ | ⟨taken, ht⟩
    · rw [lookup_of_leads hv] at h
      exact ⟨v, hv, shows_iff.mpr (Except.ok.inj h)⟩
    · rw [lookup_of_lost ht] at h
      cases h
  · rintro ⟨v, hv, hs⟩
    rw [lookup_of_leads hv, shows_iff.mp hs]

theorem lookup_eq_error_iff {error : Error} : lookup root keys = .error error ↔
    ∃ taken, root.Lost keys taken ∧ error = .missingKey (pathText taken) := by
  constructor
  · intro h
    rcases root.leads_or_lost keys with ⟨v, hv⟩ | ⟨taken, ht⟩
    · rw [lookup_of_leads hv] at h
      cases h
    · rw [lookup_of_lost ht] at h
      exact ⟨taken, ht, (Except.error.inj h).symm⟩
  · rintro ⟨taken, ht, rfl⟩
    exact lookup_of_lost ht

/-- A lookup gives the text of the value that its path leads to, or the shortest part of the path
that leads nowhere. A path is walked on from where its first part leads, and so is the lookup of
it. -/
theorem lookup_along_path (root : Value) (keys : List (List Char)) :
    (∀ text, lookup root keys = .ok text ↔ ∃ v, root.Leads keys v ∧ Shows v text) ∧
    (∀ error, lookup root keys = .error error ↔
      ∃ taken, root.Lost keys taken ∧ error = .missingKey (pathText taken)) ∧
    ∀ more, (root.walk [] (keys ++ more) = (root.walk [] keys).bind fun v => v.walk keys more) ∧
      (∀ w, root.Leads (keys ++ more) w ↔ ∃ v, root.Leads keys v ∧ v.Leads more w) ∧
      ∀ text, lookup root (keys ++ more) = .ok text ↔
        ∃ v, root.Leads keys v ∧ lookup v more = .ok text := by
  refine ⟨fun _ => lookup_eq_ok_iff, fun _ => lookup_eq_error_iff,
    fun more => ⟨Value.walk_append, fun _ => Value.leads_append_iff, fun text => ?_⟩⟩
  simp only [lookup_eq_ok_iff, Value.leads_append_iff]
  constructor
  · rintro ⟨w, ⟨v, hv, hw⟩, hs⟩
    exact ⟨v, hv, w, hw, hs⟩
  · rintro ⟨v, hv, w, hw, hs⟩
    exact ⟨w, ⟨v, hv, hw⟩, hs⟩

end LinkShot.Template
