import LinkShot.Proofs.Json.Within

/-!
Syntax trees that can be passed over, and those that can be read. The values of well-formed texts
are passed over whatever they are; whether a list or an object can be read is told by its parts.
-/
namespace LinkShot.Json

variable {room : Nat} {tree : Tree} {value : Value} {items : List Tree} {ending : Option Break}
  {members : List (Literal × Tree)} {read : List (String × Value)} {name : String}

/-- A tree in which nothing is broken off, as that of a well-formed text. -/
inductive Tree.Whole : Tree → Prop
  | null : Whole .null
  | bool {b : Bool} : Whole (.bool b)
  | number {t : NumberText} : Whole (.number t)
  | string {l : Literal} : l.ending = .closed → Whole (.string l)
  | array {items : List Tree} : (∀ item ∈ items, Whole item) → Whole (.array items none)
  | object {members : List (Literal × Tree)} : (∀ member ∈ members, member.1.ending = .closed) →
    (∀ member ∈ members, Whole member.2) → Whole (.object members none)

theorem skip_of_closed {l : Literal} (h : l.ending = .closed) : l.skip = .ok () := by
  simp [Literal.skip, StringEnd.fault?, h]

theorem skipItems_eq_ok (h : ∀ item ∈ items, item.skip = .ok ()) : skipItems items = .ok () := by
  induction items with
  | nil => rfl
  | cons item items ih =>
    obtain ⟨hitem, hitems⟩ := List.forall_mem_cons.mp h
    rw [skipItems, hitem]
    exact ih hitems

theorem skipMembers_eq_ok (hl : ∀ member ∈ members, member.1.ending = .closed)
    (h : ∀ member ∈ members, member.2.skip = .ok ()) : skipMembers members = .ok () := by
  induction members with
  | nil => rfl
  | cons member members ih =>
    obtain ⟨hclosed, hl⟩ := List.forall_mem_cons.mp hl
    obtain ⟨hmember, h⟩ := List.forall_mem_cons.mp h
    rw [skipMembers, skip_of_closed hclosed, hmember]
    exact ih hl h

/-- A well-formed value is passed over, whatever it is. -/
theorem skip_of_whole (h : tree.Whole) : tree.skip = .ok () := by
  induction h with
  | null | bool | number => rfl
  | string hl => exact skip_of_closed hl
  | array _ ih =>
    rw [Tree.skip, skipItems_eq_ok ih]
    rfl
  | object hl _ ih =>
    rw [Tree.skip, skipMembers_eq_ok hl ih]
    rfl

/-- The value can be read, with room for so many levels of nesting. -/
def Tree.Legible (room : Nat) (tree : Tree) : Prop := ∃ value, tree.value room = .ok value

def Tree.isNested : Tree → Bool
  | .array _ _ | .object _ _ => true
  | _ => false

theorem isNested_of_value (h : tree.value room = .ok value) : value.isNested = tree.isNested := by
  cases tree with
  | null | bool =>
    cases h
    rfl
  | number | string =>
    obtain ⟨_, -, rfl⟩ := map_eq_ok_iff.mp h
    rfl
  | array =>
    cases room <;> simp only [Tree.value, bind_eq_ok_iff, pure_eq_ok_iff, reduceCtorEq] at h
    obtain ⟨_, -, _, -, rfl⟩ := h
    rfl
  | object =>
    cases room <;> simp only [Tree.value, bind_eq_ok_iff, pure_eq_ok_iff, reduceCtorEq] at h
    obtain ⟨_, -, _, -, rfl⟩ := h
    rfl
  | broken => cases h

theorem itemValues_eq (room : Nat) (items : List Tree) :
    itemValues room items = items.mapM fun item => item.value room := by
  induction items with
  | nil => rfl
  | cons item items ih => rw [itemValues, List.mapM_cons, ih]

theorem exists_memberValues_iff : (∃ values, memberValues room read members = .ok values) ↔
    ∀ member ∈ members, (∃ name, member.1.text = .ok name) ∧ member.2.Legible room := by
  induction members generalizing read with
  | nil => simp [memberValues]
  | cons member members ih =>
    rw [List.forall_mem_cons]
    simp only [memberValues, bind_eq_ok_iff]
    constructor
    · rintro ⟨values, name, hname, value, hvalue, hrest⟩
      exact ⟨⟨⟨name, hname⟩, value, hvalue⟩, ih.mp ⟨values, hrest⟩⟩
    · rintro ⟨⟨⟨name, hname⟩, value, hvalue⟩, hrest⟩
      obtain ⟨values, hrest⟩ := ih.mpr hrest
      exact ⟨values, name, hname, value, hvalue, hrest⟩

theorem legible_array_iff : (Tree.array items ending).Legible (room + 1) ↔
    (∀ item ∈ items, item.Legible room) ∧ endFault ending = .ok () := by
  simp only [Tree.Legible, Tree.value, itemValues_eq, bind_eq_ok_iff, pure_eq_ok_iff,
    ← exists_mapM_iff]
  constructor
  · rintro ⟨_, values, hvalues, ⟨⟩, hend, -⟩
    exact ⟨⟨values, hvalues⟩, hend⟩
  · rintro ⟨⟨values, hvalues⟩, hend⟩
    exact ⟨_, values, hvalues, (), hend, rfl⟩

theorem legible_object_iff : (Tree.object members ending).Legible (room + 1) ↔
    (∃ values, memberValues room [] members = .ok values) ∧ endFault ending = .ok () := by
  simp only [Tree.Legible, Tree.value, bind_eq_ok_iff, pure_eq_ok_iff]
  constructor
  · rintro ⟨_, values, hvalues, ⟨⟩, hend, -⟩
    exact ⟨⟨values, hvalues⟩, hend⟩
  · rintro ⟨⟨values, hvalues⟩, hend⟩
    exact ⟨_, values, hvalues, (), hend, rfl⟩

/-- The names of members, those with a fault left out. -/
def namesOf (members : List (Literal × Tree)) : List String :=
  members.filterMap fun member => member.1.text.toOption

theorem mem_written : (name, value) ∈ written room members ↔
    ∃ member ∈ members, member.1.text = .ok name ∧ member.2.value room = .ok value := by
  simp [written, List.mem_filterMap, Option.bind_eq_some_iff, toOption_eq_some_iff]

theorem names_written_sublist (room : Nat) (members : List (Literal × Tree)) :
    ((written room members).map (·.1)).Sublist (namesOf members) := by
  induction members with
  | nil => exact .slnil
  | cons member members ih =>
    obtain ⟨l, tree⟩ := member
    cases hl : l.text.toOption with
    | none => simpa [written, namesOf, hl] using ih
    | some name =>
      cases hv : (tree.value room).toOption with
      | none => simpa [written, namesOf, hl, hv] using ih.cons name
      | some value => simpa [written, namesOf, hl, hv] using ih.cons_cons name

/-! Trees can be compared, so what a text is read as can be decided. -/

mutual

def Tree.same : Tree → Tree → Bool
  | .null, .null => true
  | .bool b, .bool b' => b == b'
  | .number t, .number t' => t == t'
  | .string l, .string l' => l == l'
  | .array items ending, .array items' ending' => sameItems items items' && ending == ending'
  | .object members ending, .object members' ending' =>
    sameMembers members members' && ending == ending'
  | .broken b, .broken b' => b == b'
  | _, _ => false

def sameItems : List Tree → List Tree → Bool
  | [], [] => true
  | item :: items, item' :: items' => item.same item' && sameItems items items'
  | _, _ => false

def sameMembers : List (Literal × Tree) → List (Literal × Tree) → Bool
  | [], [] => true
  | (name, tree) :: members, (name', tree') :: members' =>
    name == name' && tree.same tree' && sameMembers members members'
  | _, _ => false

end

mutual

theorem Tree.same_iff : ∀ tree tree' : Tree, tree.same tree' = true ↔ tree = tree'
  | .null, tree' | .bool _, tree' | .number _, tree' | .string _, tree' | .broken _, tree' => by
    cases tree' <;> simp [Tree.same]
  | .array items _, tree' => by
    cases tree' <;> simp [Tree.same, sameItems_iff items]
  | .object members _, tree' => by
    cases tree' <;> simp [Tree.same, sameMembers_iff members]

theorem sameItems_iff : ∀ items items' : List Tree, sameItems items items' = true ↔ items = items'
  | [], items' => by cases items' <;> simp [sameItems]
  | item :: items, items' => by
    cases items' <;> simp [sameItems, Tree.same_iff item, sameItems_iff items]

theorem sameMembers_iff : ∀ members members' : List (Literal × Tree),
    sameMembers members members' = true ↔ members = members'
  | [], members' => by cases members' <;> simp [sameMembers]
  | (name, tree) :: members, members' => by
    cases members' <;>
      simp [sameMembers, Tree.same_iff tree, sameMembers_iff members, Prod.ext_iff, and_assoc]

end

instance : DecidableEq Tree := fun tree tree' => decidable_of_iff _ (Tree.same_iff tree tree')

end LinkShot.Json
