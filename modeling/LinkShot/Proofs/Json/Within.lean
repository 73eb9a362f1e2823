import LinkShot.Proofs.Json.Path
import LinkShot.Proofs.Latest

/-!
What can be read from a text: values that are nested no deeper than the limit and repeat no key,
with integers that fit 64 bits. The parts of a value that a path leads to are no worse.
-/
namespace LinkShot.Json

/-- Nested no deeper than there is room, and without repeated keys. -/
inductive Value.Within : Nat → Value → Prop
  | null {room : Nat} : Within room .null
  | bool {room : Nat} {b : Bool} : Within room (.bool b)
  | number {room : Nat} {n : Number} : Within room (.number n)
  | string {room : Nat} {s : String} : Within room (.string s)
  | array {room : Nat} {items : List Value} : (∀ item ∈ items, Within room item) →
    Within (room + 1) (.array items)
  | object {room : Nat} {members : List (String × Value)} : (members.map (·.1)).Nodup →
    (∀ member ∈ members, Within room member.2) → Within (room + 1) (.object members)

def Value.isNested : Value → Bool
  | .array _ | .object _ => true
  | _ => false

variable {room room' : Nat} {value part : Value} {key : String}
  {members : List (String × Value)} {member : String × Value} {step : List Char}
  {path : List (List Char)}

theorem mem_setMember (h : member ∈ setMember key value members) :
    member = (key, value) ∨ member ∈ members := by
  induction members with
  | nil => exact .inl (List.mem_singleton.mp h)
  | cons first members ih =>
    rw [setMember] at h
    split at h
    · rename_i hk
      rcases List.mem_cons.mp h with rfl | h
      · exact .inl (by rw [hk])
      · exact .inr (List.mem_cons_of_mem _ h)
    · rcases List.mem_cons.mp h with rfl | h
      · exact .inr List.mem_cons_self
      · exact (ih h).imp_right (List.mem_cons_of_mem _)

mutual

/-- Whatever a tree denotes is within the room that it was read in. -/
theorem within_value {room : Nat} {value : Value} :
    ∀ {tree : Tree}, tree.value room = .ok value → value.Within room
  | .null, h => by
    cases h
    exact .null
  | .bool _, h => by
    cases h
    exact .bool
  | .number _, h => by
    obtain ⟨n, -, rfl⟩ := map_eq_ok_iff.mp h
    exact .number
  | .string _, h => by
    obtain ⟨s, -, rfl⟩ := map_eq_ok_iff.mp h
    exact .string
  | .array items _, h => by
    cases room with
    | zero => cases h
    | succ room =>
      simp only [Tree.value, bind_eq_ok_iff, pure_eq_ok_iff] at h
      obtain ⟨values, hv, -, -, rfl⟩ := h
      exact .array (within_items hv)
  | .object members _, h => by
    cases room with
    | zero => cases h
    | succ room =>
      simp only [Tree.value, bind_eq_ok_iff, pure_eq_ok_iff] at h
      obtain ⟨values, hv, -, -, rfl⟩ := h
      exact .object (latest_memberValues latest_nil hv).nodup (within_members (by simp) hv)
  | .broken _, h => by cases h

theorem within_items {room : Nat} {values : List Value} :
    ∀ {items : List Tree}, itemValues room items = .ok values → ∀ value ∈ values, value.Within room
  | [], h => by
    cases h
    simp
  | item :: items, h => by
    simp only [itemValues, bind_eq_ok_iff, pure_eq_ok_iff] at h
    obtain ⟨value, hv, values, hvs, rfl⟩ := h
    exact List.forall_mem_cons.mpr ⟨within_value hv, within_items hvs⟩

theorem within_members {room : Nat} {read values : List (String × Value)}
    (hr : ∀ member ∈ read, member.2.Within room) :
    ∀ {members : List (Literal × Tree)}, memberValues room read members = .ok values →
      ∀ member ∈ values, member.2.Within room
  | [], h => by
    cases h
    exact hr
  | (l, tree) :: members, h => by
    simp only [memberValues, bind_eq_ok_iff] at h
    obtain ⟨key, -, value, hv, h⟩ := h
    refine within_members (fun member hm => ?_) h
    rcases mem_setMember hm with rfl | hm
    · exact within_value hv
    · exact hr member hm

end

theorem Value.Within.mono (h : value.Within room) (hroom : room ≤ room') : value.Within room' := by
  induction h generalizing room' with
  | null => exact .null
  | bool => exact .bool
  | number => exact .number
  | string => exact .string
  | array _ ih =>
    obtain ⟨room', rfl⟩ : ∃ r, room' = r + 1 := ⟨room' - 1, by omega⟩
    exact .array fun item hi => ih item hi (by omega)
  | object hkeys _ ih =>
    obtain ⟨room', rfl⟩ : ∃ r, room' = r + 1 := ⟨room' - 1, by omega⟩
    exact .object hkeys fun member hm => ih member hm (by omega)

theorem within_step (h : value.Within room) (hs : value.step? step = some part) :
    part.Within room := by
  cases h with
  | array hitems =>
    obtain ⟨index, -, hi⟩ := Option.bind_eq_some_iff.mp hs
    exact (hitems part (List.mem_of_getElem? hi)).mono (Nat.le_succ _)
  | object _ hmembers =>
    exact (hmembers _ (mem_of_lookup hs)).mono (Nat.le_succ _)
  | _ => cases hs

/-- Paths do not lead out. -/
theorem within_at (h : value.Within room) (hp : value.at? path = some part) : part.Within room := by
  induction path generalizing value with
  | nil =>
    cases hp
    exact h
  | cons step path ih =>
    rw [Value.at?_cons] at hp
    obtain ⟨next, hs, hp⟩ := Option.bind_eq_some_iff.mp hp
    exact ih (within_step h hs) hp

/-- A text that is accepted is one tree with nothing behind it. -/
theorem readWith_eq_ok_iff {α : Type} {read : Tree → Except Fault α} {bs : Text.Bytes} {a : α} :
    readWith read bs = .ok a ↔ read (readText bs).1 = .ok a ∧ (readText bs).2 = false := by
  simp only [readWith]
  cases read (readText bs).1 with
  | error fault => simp
  | ok held => cases (readText bs).2 <;> simp

theorem tree_of_readWith {α : Type} {read : Tree → Except Fault α} {bs : Text.Bytes} {a : α}
    (h : readWith read bs = .ok a) : read (readText bs).1 = .ok a :=
  (readWith_eq_ok_iff.mp h).1

theorem within_read {bs : Text.Bytes} (h : Value.read bs = .ok value) : value.Within depthLimit :=
  within_value (tree_of_readWith h)

theorem takeDigits_lt {n : Nat} {digits : List Nat} (h : n < UInt64.size) :
    (takeDigits n digits).1 < UInt64.size := by
  induction digits generalizing n with
  | nil => exact h
  | cons d digits ih =>
    rw [takeDigits]
    split
    · rename_i hfits
      exact ih hfits
    · exact h

/-- Integers that are read fit 64 bits, with a sign or without. -/
theorem int_bounds {t : NumberText} {i : Int} (h : t.number = .ok (.int i)) :
    -9223372036854775808 ≤ i ∧ i < 18446744073709551616 := by
  have hwhole : (takeDigits 0 t.whole).1 < 18446744073709551616 := takeDigits_lt (by decide)
  unfold NumberText.number at h
  dsimp only at h
  split at h
  · rename_i hfits
    obtain rfl := Number.int.inj (Except.ok.inj h)
    simp only [Bool.and_eq_true, Bool.or_eq_true, decide_eq_true_eq] at hfits
    cases hneg : t.negative with
    | false => simp; omega
    | true =>
      simp [hneg] at hfits ⊢
      omega
  · split at h <;> cases h

theorem members_of_value {tree : Tree} (h : tree.value (room + 1) = .ok (.object members)) :
    ∃ trees, memberValues room [] trees = .ok members := by
  cases tree with
  | object trees ending =>
    simp only [Tree.value, bind_eq_ok_iff, pure_eq_ok_iff] at h
    obtain ⟨values, hvalues, -, -, he⟩ := h
    obtain rfl := Value.object.inj he
    exact ⟨trees, hvalues⟩
  | array items ending =>
    simp only [Tree.value, bind_eq_ok_iff, pure_eq_ok_iff] at h
    obtain ⟨_, -, _, -, he⟩ := h
    cases he
  | number t | string l =>
    obtain ⟨_, -, he⟩ := map_eq_ok_iff.mp h
    cases he
  | _ => cases h

/-- A member of an object that is read has been read itself. -/
theorem value_of_member {bs : Text.Bytes} (h : Value.read bs = .ok value)
    (hg : value.get? key = some part) : ∃ room tree, Tree.value room tree = .ok part := by
  cases value with
  | object members =>
    obtain ⟨trees, hvalues⟩ := members_of_value (tree_of_readWith h)
    have hlookup := (latest_memberValues latest_nil hvalues).values key
    have hget : members.lookup key = some part := hg
    rw [hget, List.nil_append] at hlookup
    have hmem := List.mem_reverse.mp (mem_of_lookup hlookup.symm)
    obtain ⟨⟨literal, tree⟩, -, hwritten⟩ := List.mem_filterMap.mp hmem
    simp only [Option.bind_eq_bind, Option.bind_eq_some_iff, toOption_eq_some_iff] at hwritten
    obtain ⟨_, -, found, hfound, he⟩ := hwritten
    cases he
    exact ⟨_, tree, hfound⟩
  | _ => cases hg

theorem int_of_member {bs : Text.Bytes} {i : Int} (h : Value.read bs = .ok value)
    (hg : value.get? key = some (.number (.int i))) :
    -9223372036854775808 ≤ i ∧ i < 18446744073709551616 := by
  obtain ⟨room, tree, htree⟩ := value_of_member h hg
  cases tree with
  | number t =>
    obtain ⟨n, hn, he⟩ := map_eq_ok_iff.mp htree
    cases he
    exact int_bounds hn
  | string l =>
    obtain ⟨_, -, he⟩ := map_eq_ok_iff.mp htree
    cases he
  | array items ending | object trees ending =>
    cases room with
    | zero => cases htree
    | succ room =>
      simp only [Tree.value, bind_eq_ok_iff, pure_eq_ok_iff] at htree
      obtain ⟨_, -, _, -, he⟩ := htree
      cases he
  | _ => cases htree
end LinkShot.Json
