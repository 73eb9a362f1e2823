import LinkShot.Proofs.Request.Reader

/-!
Forms and uploads as their reader sees them: names without quotes, and texts without the delimiter,
come back as they were sent.
-/
namespace LinkShot.Request

open Text (Bytes encode)

variable {name field : String} {entry : String × String} {value payload bs : Bytes}
  {arguments other : OrderedMap}

structure Nameable (name : String) : Prop where
  unquoted : '"' ∉ name.toList
  free : ¬delimiter <:+: encode name

instance : Decidable (Nameable name) :=
  decidable_of_iff ('"' ∉ name.toList ∧ ¬delimiter <:+: encode name)
    ⟨fun h => ⟨h.1, h.2⟩, fun h => ⟨h.1, h.2⟩⟩

def Enclosable (content : Bytes) : Prop := ¬delimiter <:+: encode "\r\n" ++ content

instance : Decidable (Enclosable value) := inferInstanceAs (Decidable (¬_))

def Framable (arguments : OrderedMap) : Prop :=
  ∀ entry ∈ arguments.entries, Nameable entry.1 ∧ Enclosable (encode entry.2)

instance : Decidable (Framable arguments) := inferInstanceAs (Decidable (∀ entry ∈ _, _))

/-- The delimiter lies to one side of a byte that it does not have. -/
theorem free_append {mark : UInt8} {front : Bytes} (hm : mark ∉ delimiter)
    (hf : ¬delimiter <:+: front) (hb : ¬delimiter <:+: bs) :
    ¬delimiter <:+: front ++ mark :: bs := by
  intro hi
  rcases Text.infix_beside_mark hm hi with h | h
  · exact hf h
  · exact hb h

/-- A delimiter at the seam of the blank line and a text would begin with the line's second half. -/
theorem free_after_blankLine (h : Enclosable value) : ¬delimiter <:+: blankLine ++ value := by
  have hd : delimiter = 13 :: 10 :: 45 :: delimiter.drop 3 := rfl
  have hb : blankLine ++ value = 13 :: 10 :: 13 :: 10 :: value := rfl
  intro hi
  rw [hb, List.infix_cons_iff, List.infix_cons_iff] at hi
  rcases hi with hp | hp | hi
  · rw [hd] at hp
    simp at hp
  · rw [hd] at hp
    simp at hp
  · exact h hi

def fieldContent (entry : String × String) : Bytes :=
  nameLabel ++ quote :: (encode entry.1 ++ quote :: (blankLine ++ encode entry.2))

def fileContent (field : String) (payload : Bytes) : Bytes :=
  nameLabel ++ quote :: (encode field ++ quote :: (filenameLabel ++
    quote :: (encode (field ++ ".png") ++ quote :: (typeLabel ++ blankLine ++ payload))))

theorem argumentPart_eq : argumentPart entry = delimiter ++ fieldContent entry := by
  have hq : encode "\"\r\n\r\n" = quote :: blankLine := rfl
  have hl : encode "\r\nContent-Disposition: form-data; name=\"" = nameLabel ++ [quote] := rfl
  simp only [argumentPart, fieldContent, Text.encode_append, hq, hl, List.append_assoc,
    List.cons_append, List.nil_append]

theorem filePart_eq : filePart field payload = delimiter ++ fileContent field payload := by
  have hl : encode "\r\nContent-Disposition: form-data; name=\"" = nameLabel ++ [quote] := rfl
  have hn : encode "\"; filename=\"" = quote :: filenameLabel ++ [quote] := rfl
  have ht : encode ".png\"\r\nContent-Type: application/octet-stream\r\n\r\n" =
    encode ".png" ++ quote :: (typeLabel ++ blankLine) := rfl
  simp only [filePart, fileContent, Text.encode_append, hl, hn, ht, List.append_assoc,
    List.cons_append, List.nil_append]

theorem free_nameLabel : ¬delimiter <:+: nameLabel := free_of_short (by decide)

theorem free_fieldContent (hn : Nameable entry.1) (hv : Enclosable (encode entry.2)) :
    ¬delimiter <:+: fieldContent entry :=
  free_append quote_not_mem free_nameLabel
    (free_append quote_not_mem hn.free (free_after_blankLine hv))

theorem free_fileContent (hn : Nameable field) (hp : Enclosable payload) :
    ¬delimiter <:+: fileContent field payload := by
  have hname : ¬delimiter <:+: encode (field ++ ".png") := by
    rw [Text.encode_append]
    exact free_append (show 46 ∉ delimiter by decide) hn.free (free_of_short (by decide))
  have htype : ¬delimiter <:+: typeLabel ++ blankLine ++ payload := by
    have ht : typeLabel ++ blankLine ++ payload =
      encode "\r\nContent-Type: application/octet-strea" ++ 109 :: (blankLine ++ payload) := rfl
    rw [ht]
    exact free_append (show 109 ∉ delimiter by decide) (free_of_short (by decide))
      (free_after_blankLine hp)
  exact free_append quote_not_mem free_nameLabel <|
    free_append quote_not_mem hn.free <|
    free_append quote_not_mem (free_of_short (by decide)) <|
    free_append quote_not_mem hname htype

theorem readPart_field (h : '"' ∉ entry.1.toList) :
    readPart (fieldContent entry) = some (.field entry.1 entry.2) := by
  simp [readPart, fieldContent, dropPrefix?_append, quoted?_encode h]

theorem readPart_file (h : '"' ∉ field.toList) :
    readPart (fileContent field payload) = some (.file field (field ++ ".png") payload) := by
  have hpng : '"' ∉ (field ++ ".png").toList := by
    rw [String.toList_append, List.mem_append]
    exact fun hm => hm.elim h (by decide)
  have hblank (rest : Bytes) : (filenameLabel ++ rest).dropPrefix? blankLine = none := rfl
  simp only [readPart, fileContent, dropPrefix?_append, quoted?_encode h, hblank,
    quoted?_encode hpng, Option.bind_eq_bind, Option.bind_some, Option.pure_def]

theorem argumentParts_eq :
    argumentParts arguments =
      (arguments.entries.map fieldContent).flatMap (delimiter ++ ·) := by
  rw [argumentParts, List.flatMap_map]
  exact congrArg (List.flatMap · _) (funext fun _ => argumentPart_eq)

theorem formBody_eq (h : arguments.entries ≠ []) :
    formBody arguments = frame (arguments.entries.map fieldContent) := by
  have he : arguments.isEmpty = false := by simpa [OrderedMap.isEmpty] using h
  simp [formBody, he, frame_eq, argumentParts_eq]

theorem formBody_eq_nil_iff : formBody arguments = [] ↔ arguments.entries = [] := by
  constructor
  · intro hb
    by_contra h
    rw [formBody_eq h, frame_eq] at hb
    exact absurd hb (List.append_ne_nil_of_right_ne_nil _ (by decide))
  · intro h
    simp [formBody, OrderedMap.isEmpty, h]

theorem uploadBody_eq : uploadBody field payload arguments =
    frame (fileContent field payload :: arguments.entries.map fieldContent) := by
  simp [uploadBody, frame_eq, filePart_eq, argumentParts_eq]

def fieldParts (arguments : OrderedMap) : List Part :=
  arguments.entries.map fun entry => .field entry.1 entry.2

theorem fieldParts_inj : fieldParts arguments = fieldParts other ↔ arguments = other := by
  constructor
  · intro h
    have he : Function.Injective fun entry : String × String => Part.field entry.1 entry.2 := by
      rintro ⟨k, v⟩ ⟨k', v'⟩ hf
      simpa using hf
    cases arguments
    cases other
    exact congrArg OrderedMap.mk (List.map_injective_iff.mpr he h)
  · rintro rfl
    rfl

theorem mapM_fieldContent (h : Framable arguments) :
    (arguments.entries.map fieldContent).mapM readPart = some (fieldParts arguments) := by
  have hr : ∀ entry ∈ arguments.entries, '"' ∉ entry.1.toList := fun e he => (h e he).1.unquoted
  rw [fieldParts]
  generalize arguments.entries = entries at hr
  induction entries with
  | nil => rfl
  | cons entry entries ih =>
    have ht := ih fun e he => hr e (by simp [he])
    rw [List.map_cons, List.mapM_cons, readPart_field (hr entry (by simp)), ht]
    rfl

theorem free_of_framable (h : Framable arguments) :
    ∀ content ∈ arguments.entries.map fieldContent, ¬delimiter <:+: content := by
  intro content hc
  obtain ⟨entry, he, rfl⟩ := List.mem_map.mp hc
  exact free_fieldContent (h entry he).1 (h entry he).2

theorem read_formBody (h : Framable arguments) :
    read (formBody arguments) = some (fieldParts arguments) := by
  by_cases he : arguments.entries = []
  · rw [formBody_eq_nil_iff.mpr he]
    simp [read, fieldParts, he]
  · rw [formBody_eq he, read_frame, pieces_of_free (free_of_framable h), mapM_fieldContent h]

theorem free_uploadContents (hn : Nameable field) (hp : Enclosable payload)
    (h : Framable arguments) :
    ∀ content ∈ fileContent field payload :: arguments.entries.map fieldContent,
      ¬delimiter <:+: content :=
  List.forall_mem_cons.mpr ⟨free_fileContent hn hp, free_of_framable h⟩

theorem read_uploadBody (hn : Nameable field) (hp : Enclosable payload) (h : Framable arguments) :
    read (uploadBody field payload arguments) =
      some (.file field (field ++ ".png") payload :: fieldParts arguments) := by
  rw [uploadBody_eq, read_frame, pieces_of_free (free_uploadContents hn hp h), List.mapM_cons,
    readPart_file hn.unquoted, mapM_fieldContent h]
  rfl

theorem not_dashes : ¬encode "--" <+: nameLabel ++ bs := by
  have hl : nameLabel = 13 :: nameLabel.tail := rfl
  have hd : encode "--" = [45, 45] := rfl
  rw [hl, hd]
  simp

theorem not_dashes_fieldContent :
    ∀ content ∈ arguments.entries.map fieldContent, ¬encode "--" <+: content := by
  intro content hc
  obtain ⟨entry, _, rfl⟩ := List.mem_map.mp hc
  exact not_dashes

theorem closedOnce_formBody (h : Framable arguments) (hne : arguments.entries ≠ []) :
    ClosedOnce (formBody arguments) := by
  rw [formBody_eq hne]
  exact closedOnce_frame (free_of_framable h) not_dashes_fieldContent

theorem closedOnce_uploadBody (hn : Nameable field) (hp : Enclosable payload)
    (h : Framable arguments) : ClosedOnce (uploadBody field payload arguments) := by
  rw [uploadBody_eq]
  exact closedOnce_frame (free_uploadContents hn hp h)
    (List.forall_mem_cons.mpr ⟨not_dashes, not_dashes_fieldContent⟩)

theorem formBody_inj (h : Framable arguments) (ho : Framable other)
    (he : formBody other = formBody arguments) : other = arguments := by
  have hr : read (formBody other) = read (formBody arguments) := congrArg read he
  rw [read_formBody h, read_formBody ho, Option.some.injEq] at hr
  exact fieldParts_inj.mp hr

theorem uploadBody_inj {field' : String} {payload' : Bytes}
    (hn : Nameable field) (hp : Enclosable payload) (h : Framable arguments)
    (hn' : Nameable field') (hp' : Enclosable payload') (ho : Framable other)
    (he : uploadBody field' payload' other = uploadBody field payload arguments) :
    field' = field ∧ payload' = payload ∧ other = arguments := by
  have hr : read (uploadBody field' payload' other) = read (uploadBody field payload arguments) :=
    congrArg read he
  rw [read_uploadBody hn hp h, read_uploadBody hn' hp' ho] at hr
  simp only [Option.some.injEq, List.cons.injEq, Part.file.injEq] at hr
  exact ⟨hr.1.1, hr.1.2.2, fieldParts_inj.mp hr.2⟩

theorem formBody_ne_uploadBody (hn : Nameable field) (hp : Enclosable payload)
    (h : Framable arguments) (ho : Framable other) :
    formBody other ≠ uploadBody field payload arguments := by
  intro he
  have hr : read (formBody other) = read (uploadBody field payload arguments) := congrArg read he
  rw [read_formBody ho, read_uploadBody hn hp h, Option.some.injEq, fieldParts] at hr
  generalize other.entries = entries at hr
  cases entries <;> simp at hr

/-- Forms and uploads can be read back, and so tell apart what they were made of. -/
theorem framing (arguments : OrderedMap) (h : Framable arguments) :
    read (formBody arguments) = some (fieldParts arguments) ∧
    (formBody arguments = [] ↔ arguments.entries = []) ∧
    (arguments.entries ≠ [] → ClosedOnce (formBody arguments)) ∧
    (∀ other, Framable other → formBody other = formBody arguments → other = arguments) ∧
    ∀ field payload, Nameable field → Enclosable payload →
      read (uploadBody field payload arguments) =
        some (.file field (field ++ ".png") payload :: fieldParts arguments) ∧
      ClosedOnce (uploadBody field payload arguments) ∧
      (∀ other, Framable other → formBody other ≠ uploadBody field payload arguments) ∧
      ∀ field' payload' other, Nameable field' → Enclosable payload' → Framable other →
        uploadBody field' payload' other = uploadBody field payload arguments →
          field' = field ∧ payload' = payload ∧ other = arguments := by
  refine ⟨read_formBody h, formBody_eq_nil_iff, closedOnce_formBody h,
    fun other ho => formBody_inj h ho, fun field payload hn hp => ?_⟩
  exact ⟨read_uploadBody hn hp h, closedOnce_uploadBody hn hp h,
    fun other ho => formBody_ne_uploadBody hn hp h ho,
    fun field' payload' other hn' hp' ho => uploadBody_inj hn hp h hn' hp' ho⟩

/-- A value that looks like the end of a form, with a dash too many. -/
def lookalike : OrderedMap := ⟨[("text", "\r\n---" ++ boundary ++ "--\r\n"), ("", "")]⟩

theorem framing_lookalike :
    Framable lookalike ∧
    read (formBody lookalike) = some (fieldParts lookalike) ∧
    ClosedOnce (formBody lookalike) ∧
    read (uploadBody "image" [13, 10, 45, 45] lookalike) =
      some (.file "image" "image.png" [13, 10, 45, 45] :: fieldParts lookalike) := by
  have h : Framable lookalike := by decide +kernel
  obtain ⟨hread, _, hclosed, _, hupload⟩ := framing lookalike h
  exact ⟨h, hread, hclosed (by decide),
    (hupload "image" [13, 10, 45, 45] (by decide +kernel) (by decide +kernel)).1⟩

end LinkShot.Request
