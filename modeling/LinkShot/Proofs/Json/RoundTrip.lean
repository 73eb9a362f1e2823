import LinkShot.Proofs.Json.Integers
import LinkShot.Proofs.Json.Within

/-!
Values whose numbers are integers are read back from their texts: lists and objects item by item,
the keys of an object in the order in which they are written.
-/
namespace LinkShot.Json

open Text (Bytes utf8 encode)

/-- An integer of 64 bits, signed or unsigned. -/
def Number.IsWord (n : Number) : Prop :=
  ∃ i : Int, n = .int i ∧ -9223372036854775808 ≤ i ∧ i < 18446744073709551616

mutual

/-- All numbers of a value, at any depth. -/
def Value.numbers : Value → List Number
  | .number n => [n]
  | .array items => itemNumbers items
  | .object members => memberNumbers members
  | _ => []

def itemNumbers : List Value → List Number
  | [] => []
  | item :: rest => item.numbers ++ itemNumbers rest

def memberNumbers : List (String × Value) → List Number
  | [] => []
  | (_, value) :: rest => value.numbers ++ memberNumbers rest

end

variable {b : UInt8} {bs rest : Bytes} {fuel room : Nat} {value : Value} {n : Number}
  {items : List Value} {members read : List (String × Value)} {key : String}

/-- The text of the value is read as the value, whatever follows that cannot belong to it. -/
structure ReadsBack (room : Nat) (value : Value) : Prop where
  opens : ∃ b bs, utf8 value.print = b :: bs ∧ isBlankByte b = false ∧ b ≠ byteOf ']'
  reads : ∀ fuel rest, 2 * (utf8 value.print).length ≤ fuel → EndsNumber rest →
    ∃ tree, readTree fuel (utf8 value.print ++ rest) = (tree, some rest) ∧
      tree.value room = .ok value

theorem printItems_cons : printItems (value :: items) =
    value.print ++ if items.isEmpty then [] else ',' :: printItems items := by
  cases items <;> simp [printItems]

/-- A comma before an item is passed over. -/
theorem readItems_comma (h : ReadsBack room value) :
    readItems (fuel + 1) false (byteOf ',' :: (utf8 (printItems (value :: items)) ++ bs)) =
      readItems (fuel + 1) true (utf8 (printItems (value :: items)) ++ bs) := by
  obtain ⟨b, bytes, hb, hblank, hclose⟩ := h.opens
  have hcomma : isBlankByte (byteOf ',') = false := by decide
  have hne : byteOf ',' ≠ byteOf ']' := by decide
  rw [printItems_cons, Text.utf8_append, hb]
  simp only [List.cons_append, readItems, skipBlank_cons hcomma, skipBlank_cons hblank, hclose, hne,
    if_false, if_true, Bool.false_eq_true]

theorem readItems_close (h : 0 < fuel) {first : Bool} :
    readItems fuel first (byteOf ']' :: rest) = ([], none, some rest) := by
  cases fuel with
  | zero => simp at h
  | succ fuel => rfl

/-- An item is read, and reading goes on behind it. -/
theorem readItems_item {tree : Tree} (h : ReadsBack room value)
    (ht : readTree fuel (utf8 value.print ++ bs) = (tree, some rest)) :
    readItems (fuel + 1) true (utf8 value.print ++ bs) =
      (tree :: (readItems fuel false rest).1, (readItems fuel false rest).2) := by
  obtain ⟨b, bytes, hb, hblank, hclose⟩ := h.opens
  rw [hb, List.cons_append] at ht ⊢
  simp only [readItems, skipBlank_cons hblank, hclose, if_false, if_true, ht]

/-- The items of a list are read from behind its bracket. An item and the comma behind it cost two
calls and take two bytes at least, so that the fuel lasts. -/
theorem readItems_printed (rest : Bytes) (h : ∀ item ∈ items, ReadsBack room item)
    (hf : 2 * (utf8 (printItems items)).length < fuel) :
    ∃ trees, readItems fuel true (utf8 (printItems items) ++ byteOf ']' :: rest) =
        (trees, none, some rest) ∧ itemValues room trees = .ok items := by
  induction items generalizing fuel with
  | nil => exact ⟨[], readItems_close (by omega), rfl⟩
  | cons item items ih =>
    obtain ⟨hitem, hitems⟩ := List.forall_mem_cons.mp h
    obtain ⟨b, bs, hb, -⟩ := hitem.opens
    have hlength : 0 < (utf8 item.print).length := by simp [hb]
    rw [printItems_cons, Text.utf8_append, List.length_append] at hf
    obtain ⟨fuel, rfl⟩ : ∃ f, fuel = f + 2 := ⟨fuel - 2, by omega⟩
    rw [printItems_cons, Text.utf8_append, List.append_assoc]
    -- the bracket stands behind the last item, a comma behind every other one
    cases items with
    | nil =>
      obtain ⟨tree, htree, hvalue⟩ := hitem.reads (fuel + 1) (byteOf ']' :: rest) (by omega)
        (endsNumber_cons (by decide))
      refine ⟨[tree], ?_, by simp [itemValues, hvalue, bind, Except.bind, pure, Except.pure]⟩
      exact (readItems_item hitem htree).trans (by rw [readItems_close (by omega)])
    | cons next items =>
      have hcomma : utf8 (',' :: printItems (next :: items)) =
        byteOf ',' :: utf8 (printItems (next :: items)) := rfl
      simp only [List.isEmpty_cons, Bool.false_eq_true, if_false, hcomma, List.cons_append,
        List.length_cons] at hf ⊢
      obtain ⟨tree, htree, hvalue⟩ := hitem.reads (fuel + 1)
        (byteOf ',' :: (utf8 (printItems (next :: items)) ++ byteOf ']' :: rest)) (by omega)
        (endsNumber_cons (by decide))
      have hrest : 2 * (utf8 (printItems (next :: items))).length < fuel + 1 := by omega
      obtain ⟨trees, htrees, hvalues⟩ := ih hitems hrest
      refine ⟨tree :: trees, ?_, by
        simp [itemValues, hvalue, hvalues, bind, Except.bind, pure, Except.pure]⟩
      rw [readItems_item hitem htree, readItems_comma (hitems next List.mem_cons_self), htrees]

theorem printMembers_cons : printMembers ((key, value) :: members) = quote key ++
    ':' :: (value.print ++ if members.isEmpty then [] else ',' :: printMembers members) := by
  cases members <;> simp [printMembers]

theorem utf8_quote :
    utf8 (quote key) = byteOf '"' :: (utf8 (key.toList.flatMap escape) ++ [byteOf '"']) := by
  rw [quote, Text.utf8_cons, Text.utf8_append]
  rfl

theorem readMembers_close (h : 0 < fuel) {first : Bool} :
    readMembers fuel first (0x7D :: rest) = ([], none, some rest) := by
  cases fuel with
  | zero => simp at h
  | succ fuel => rfl

theorem readMembers_comma :
    readMembers (fuel + 1) false (byteOf ',' :: (utf8 (quote key) ++ bs)) =
      readMembers (fuel + 1) true (utf8 (quote key) ++ bs) := by
  have hcomma : isBlankByte (byteOf ',') = false := by decide
  have hquote : isBlankByte (byteOf '"') = false := by decide
  have hne : byteOf ',' ≠ 0x7D ∧ byteOf '"' ≠ 0x7D := by decide
  rw [utf8_quote]
  simp only [List.cons_append, readMembers, skipBlank_cons hcomma, skipBlank_cons hquote, hne,
    if_false, if_true, Bool.false_eq_true]

/-- A member is read, and reading goes on behind it. -/
theorem readMembers_member {tree : Tree} (key : String)
    (ht : readTree fuel bs = (tree, some rest)) :
    ∃ l, l.text = .ok key ∧ readMembers (fuel + 1) true (utf8 (quote key) ++ byteOf ':' :: bs) =
      ((l, tree) :: (readMembers fuel false rest).1, (readMembers fuel false rest).2) := by
  obtain ⟨l, hread, htext⟩ := readLiteral_quoted key.toList (byteOf ':' :: bs)
  refine ⟨l, by simpa using htext, ?_⟩
  have hquote : isBlankByte (byteOf '"') = false := by decide
  have hcolon : isBlankByte (byteOf ':') = false := by decide
  have hne : byteOf '"' ≠ 0x7D := by decide
  rw [utf8_quote]
  simp only [List.cons_append, List.append_assoc, List.nil_append, readMembers,
    skipBlank_cons hquote, skipBlank_cons hcolon, hne, if_false, if_true, hread, ht]

theorem memberValues_new {l : Literal} {tree : Tree} {trees : List (Literal × Tree)}
    (hl : l.text = .ok key) (hv : tree.value room = .ok value) (h : key ∉ read.map (·.1)) :
    memberValues room read ((l, tree) :: trees) =
      memberValues room (read ++ [(key, value)]) trees := by
  rw [memberValues, hl, ← setMember_new h]
  simp [hv, bind, Except.bind]

/-- The members of an object are read from behind its brace, and added to those already there. -/
theorem readMembers_printed (rest : Bytes) (h : ∀ member ∈ members, ReadsBack room member.2)
    (hn : (read.map (·.1) ++ members.map (·.1)).Nodup)
    (hf : 2 * (utf8 (printMembers members)).length < fuel) :
    ∃ trees, readMembers fuel true (utf8 (printMembers members) ++ 0x7D :: rest) =
        (trees, none, some rest) ∧ memberValues room read trees = .ok (read ++ members) := by
  induction members generalizing fuel read with
  | nil => exact ⟨[], readMembers_close (by omega), by simp [memberValues]⟩
  | cons member members ih =>
    obtain ⟨key, value⟩ := member
    have hvalue : ReadsBack room value := h _ List.mem_cons_self
    have hmembers := (List.forall_mem_cons.mp h).2
    have hcolon (cs : List Char) : utf8 (':' :: cs) = byteOf ':' :: utf8 cs := rfl
    have hcomma (cs : List Char) : utf8 (',' :: cs) = byteOf ',' :: utf8 cs := rfl
    have hnew : key ∉ read.map (·.1) := by
      rw [List.map_cons, List.nodup_middle, List.nodup_cons] at hn
      exact fun hin => hn.1 (List.mem_append_left _ hin)
    rw [printMembers_cons, Text.utf8_append, List.length_append, hcolon, List.length_cons,
      Text.utf8_append, List.length_append] at hf
    obtain ⟨fuel, rfl⟩ : ∃ f, fuel = f + 2 := ⟨fuel - 2, by omega⟩
    rw [printMembers_cons, Text.utf8_append, hcolon, Text.utf8_append, List.append_assoc,
      List.cons_append, List.append_assoc]
    cases members with
    | nil =>
      obtain ⟨tree, htree, hread⟩ := hvalue.reads (fuel + 1) (0x7D :: rest) (by omega)
        (endsNumber_cons (by decide))
      obtain ⟨l, hl, hmember⟩ := readMembers_member key htree
      refine ⟨[(l, tree)], ?_, by rw [memberValues_new hl hread hnew, memberValues]⟩
      exact hmember.trans (by rw [readMembers_close (by omega)])
    | cons next members =>
      simp only [List.isEmpty_cons, Bool.false_eq_true, if_false, hcomma, List.cons_append,
        List.length_cons] at hf ⊢
      obtain ⟨tree, htree, hread⟩ := hvalue.reads (fuel + 1)
        (byteOf ',' :: (utf8 (printMembers (next :: members)) ++ 0x7D :: rest)) (by omega)
        (endsNumber_cons (by decide))
      obtain ⟨l, hl, hmember⟩ := readMembers_member key htree
      have hkeys : ((read ++ [(key, value)]).map (·.1) ++ (next :: members).map (·.1)).Nodup := by
        simpa using hn
      have hrest : 2 * (utf8 (printMembers (next :: members))).length < fuel + 1 := by omega
      obtain ⟨trees, htrees, hvalues⟩ := ih hmembers hkeys hrest
      refine ⟨(l, tree) :: trees, ?_, by rw [memberValues_new hl hread hnew, hvalues]; simp⟩
      rw [printMembers_cons, Text.utf8_append, List.append_assoc] at htrees hmember ⊢
      rw [hmember, readMembers_comma, htrees]

/-- The byte that opens a value decides what is read; the rest of the text is fuel enough for the
parts. -/
theorem readsBack_of_open (hb : utf8 value.print = b :: bs) (hblank : isBlankByte b = false)
    (hclose : b ≠ byteOf ']') (hr : ∀ fuel rest, 2 * bs.length < fuel → EndsNumber rest →
      ∃ tree, readTree (fuel + 1) (b :: (bs ++ rest)) = (tree, some rest) ∧
        tree.value room = .ok value) :
    ReadsBack room value := by
  refine ⟨⟨b, bs, hb, hblank, hclose⟩, fun fuel rest hf hend => ?_⟩
  rw [hb, List.length_cons] at hf
  obtain ⟨fuel, rfl⟩ : ∃ f, fuel = f + 1 := ⟨fuel - 1, by omega⟩
  rw [hb]
  exact hr fuel rest (by omega) hend

theorem readsBack_null : ReadsBack room .null :=
  readsBack_of_open (b := byteOf 'n') rfl rfl (by decide) fun _ _ _ _ => ⟨.null, rfl, rfl⟩

theorem readsBack_bool (b : Bool) : ReadsBack room (.bool b) := by
  cases b
  · exact readsBack_of_open (b := byteOf 'f') rfl rfl (by decide)
      fun _ _ _ _ => ⟨.bool false, rfl, rfl⟩
  · exact readsBack_of_open (b := byteOf 't') rfl rfl (by decide)
      fun _ _ _ _ => ⟨.bool true, rfl, rfl⟩

theorem readsBack_string (s : String) : ReadsBack room (.string s) := by
  have hprint : utf8 (Value.string s).print =
      byteOf '"' :: (utf8 (s.toList.flatMap escape) ++ [byteOf '"']) := utf8_quote
  refine readsBack_of_open hprint (by decide) (by decide) fun fuel rest _ _ => ?_
  obtain ⟨l, hread, htext⟩ := readLiteral_quoted s.toList rest
  have hopen (bs : Bytes) : readTree (fuel + 1) (byteOf '"' :: bs) =
    (.string (readLiteral bs).1, (readLiteral bs).2) := rfl
  refine ⟨.string l, ?_, by simp [Tree.value, htext, Except.map]⟩
  rw [hopen, List.append_assoc, List.singleton_append, hread]

theorem readsBack_array (h : ∀ item ∈ items, ReadsBack room item) :
    ReadsBack (room + 1) (.array items) := by
  have hprint : utf8 (Value.array items).print =
      byteOf '[' :: (utf8 (printItems items) ++ [byteOf ']']) := by
    rw [Value.print, Text.utf8_cons, Text.utf8_append]
    rfl
  refine readsBack_of_open hprint (by decide) (by decide) fun fuel rest hf _ => ?_
  rw [List.length_append] at hf
  have hitems : 2 * (utf8 (printItems items)).length < fuel := by omega
  obtain ⟨trees, hread, hvalues⟩ := readItems_printed rest h hitems
  have hopen (bs : Bytes) : readTree (fuel + 1) (byteOf '[' :: bs) =
    (.array (readItems fuel true bs).1 (readItems fuel true bs).2.1,
      (readItems fuel true bs).2.2) := rfl
  refine ⟨.array trees none, ?_, ?_⟩
  · rw [hopen, List.append_assoc, List.singleton_append, hread]
  · simp [Tree.value, hvalues, endFault, bind, Except.bind, pure, Except.pure]

theorem readsBack_object (hn : (members.map (·.1)).Nodup)
    (h : ∀ member ∈ members, ReadsBack room member.2) : ReadsBack (room + 1) (.object members) := by
  have hprint : utf8 (Value.object members).print =
      0x7B :: (utf8 (printMembers members) ++ [0x7D]) := by
    rw [Value.print, Text.utf8_cons, Text.utf8_append]
    rfl
  refine readsBack_of_open hprint (by decide) (by decide) fun fuel rest hf _ => ?_
  rw [List.length_append] at hf
  have hkeys : (([] : List (String × Value)).map (·.1) ++ members.map (·.1)).Nodup := hn
  have hmembers : 2 * (utf8 (printMembers members)).length < fuel := by omega
  obtain ⟨trees, hread, hvalues⟩ := readMembers_printed rest h hkeys hmembers
  have hopen (bs : Bytes) : readTree (fuel + 1) (0x7B :: bs) =
    (.object (readMembers fuel true bs).1 (readMembers fuel true bs).2.1,
      (readMembers fuel true bs).2.2) := rfl
  refine ⟨.object trees none, ?_, ?_⟩
  · rw [hopen, List.append_assoc, List.singleton_append, hread]
  · simp [Tree.value, hvalues, endFault, bind, Except.bind, pure, Except.pure]

theorem readsBack_number (h : n.IsWord) : ReadsBack room (.number n) := by
  obtain ⟨i, rfl, hlow, hhigh⟩ := h
  cases i with
  | ofNat m =>
    have hprint : utf8 (Value.number (.int (.ofNat m))).print = utf8 (Nat.toDigits 10 m) :=
      congrArg utf8 Nat.toList_repr
    have hword : m < UInt64.size := Int.ofNat_lt.mp hhigh
    obtain ⟨b, bs, hb, hdigit⟩ := toDigits_opens m
    obtain ⟨hblank, hclose, -⟩ := digit_opens hdigit
    refine readsBack_of_open (hprint.trans hb) hblank hclose fun fuel rest _ hend => ?_
    rw [← List.cons_append, ← hb, readTree_digits hend]
    exact ⟨_, rfl, by rw [Tree.value, number_digits hword (by simp)]; rfl⟩
  | negSucc m =>
    have htext : ("-" ++ Nat.repr (m + 1)).toList = '-' :: Nat.toDigits 10 (m + 1) := by
      rw [String.toList_append, Nat.toList_repr]
      rfl
    have hprint : utf8 (Value.number (.int (.negSucc m))).print =
        byteOf '-' :: utf8 (Nat.toDigits 10 (m + 1)) := congrArg utf8 htext
    have hword : m + 1 < UInt64.size := by
      simp only [UInt64.size]
      omega
    refine readsBack_of_open hprint (by decide) (by decide) fun fuel rest _ hend => ?_
    rw [readTree_minus hend]
    exact ⟨_, rfl, by rw [Tree.value, number_digits hword (by omega)]; rfl⟩

theorem itemNumbers_eq : itemNumbers items = items.flatMap Value.numbers := by
  induction items with
  | nil => rfl
  | cons item items ih => rw [itemNumbers, ih, List.flatMap_cons]

theorem memberNumbers_eq : memberNumbers members = members.flatMap (·.2.numbers) := by
  induction members with
  | nil => rfl
  | cons member members ih => rw [memberNumbers, ih, List.flatMap_cons]

/-- The induction is on how the value is nested; a list or an object takes one level of the room. -/
theorem readsBack_of_within (h : value.Within room) (hn : ∀ n ∈ value.numbers, n.IsWord) :
    ReadsBack room value := by
  induction h with
  | null => exact readsBack_null
  | bool => exact readsBack_bool _
  | number => exact readsBack_number (hn _ (by simp [Value.numbers]))
  | string => exact readsBack_string _
  | array _ ih =>
    rw [Value.numbers, itemNumbers_eq] at hn
    exact readsBack_array fun item hi => ih item hi fun n hm => hn n (List.mem_flatMap_of_mem hi hm)
  | object hkeys _ ih =>
    rw [Value.numbers, memberNumbers_eq] at hn
    exact readsBack_object hkeys fun member hi =>
      ih member hi fun n hm => hn n (List.mem_flatMap.mpr ⟨member, hi, hm⟩)

/-- Printing a value and reading it back changes nothing. -/
theorem read_text (h : value.Within depthLimit) (hn : ∀ n ∈ value.numbers, n.IsWord) :
    Value.read (encode value.text) = .ok value := by
  obtain ⟨tree, htree, hvalue⟩ := (readsBack_of_within h hn).reads
    (2 * (utf8 value.print).length + 2) [] (by omega) (by simp [EndsNumber])
  rw [List.append_nil] at htree
  rw [Value.read, readWith, Value.text, Text.encode_ofList, readText, htree]
  simp [hvalue, skipBlank]

end LinkShot.Json
