import LinkShot.Proofs.Request.Framing

/-!
The structure of a form: how many parts it has, and their names. It is told by the keys of the
arguments exactly as long as no value holds the delimiter, since values are sent as they are.
-/
namespace LinkShot.Request

open Text (Bytes encode)

variable {key : String} {arguments : OrderedMap} {contents : List Bytes} {entry : String × String}

def Part.name : Part → String
  | .field name _ | .file name _ _ => name

/-- The names of the parts, in order. -/
def partNames (body : Bytes) : Option (List String) := (read body).map (·.map Part.name)

/-- There is no quote in the name, and no line end. -/
structure PlainName (name : String) : Prop where
  unquoted : '"' ∉ name.toList
  unbroken : ¬ ['\r', '\n'] <:+: name.toList

instance : Decidable (PlainName key) :=
  decidable_of_iff ('"' ∉ key.toList ∧ ¬ ['\r', '\n'] <:+: key.toList)
    ⟨fun h => ⟨h.1, h.2⟩, fun h => ⟨h.1, h.2⟩⟩

/-- No value holds the delimiter, with the line end before it counted in. -/
def Separate (arguments : OrderedMap) : Prop :=
  ∀ entry ∈ arguments.entries, Enclosable (encode entry.2)

instance : Decidable (Separate arguments) := inferInstanceAs (Decidable (∀ entry ∈ _, _))

/-- Every delimiter opens with a line end. -/
theorem nameable_of_plain (h : PlainName key) : Nameable key where
  unquoted := h.unquoted
  free hi := by
    have hascii : ∀ c ∈ ['\r', '\n'], c.toNat < 0x80 := by simp
    have hopen : Text.utf8 ['\r', '\n'] <+: delimiter := ⟨delimiter.drop 2, rfl⟩
    exact h.unbroken (Text.infix_of_utf8 hascii (hopen.isInfix.trans hi))

theorem framable_iff (hn : ∀ key ∈ arguments.keys, Nameable key) :
    Framable arguments ↔ Separate arguments := by
  constructor
  · intro hf entry hin
    exact (hf entry hin).2
  · intro hs entry hin
    exact ⟨hn _ (List.mem_map_of_mem hin), hs entry hin⟩

theorem names_fieldParts (arguments : OrderedMap) :
    (fieldParts arguments).map Part.name = arguments.keys := by
  simp [fieldParts, OrderedMap.keys, Part.name, Function.comp_def]

theorem length_of_mapM {α β : Type} {f : α → Option β} {xs : List α} {ys : List β}
    (h : xs.mapM f = some ys) : ys.length = xs.length := by
  induction xs generalizing ys with
  | nil =>
    cases h
    rfl
  | cons x xs ih =>
    simp only [List.mapM_cons, Option.bind_eq_bind, Option.bind_eq_some_iff, Option.pure_def] at h
    obtain ⟨y, _, rest, hrest, he⟩ := h
    cases he
    simp [ih hrest]

/-- A form that reads with as many parts as it has contents holds no delimiter in them. -/
theorem free_of_read {parts : List Part} (hr : read (frame contents) = some parts)
    (hlen : parts.length = contents.length) : ∀ content ∈ contents, ¬delimiter <:+: content := by
  rw [read_frame] at hr
  exact (Text.length_flatMap_split_iff cr_once).mp ((length_of_mapM hr).symm.trans hlen)

theorem enclosable_of_free (h : ¬delimiter <:+: fieldContent entry) :
    Enclosable (encode entry.2) := by
  intro hi
  have hend : encode "\r\n" ++ encode entry.2 <:+ fieldContent entry :=
    ⟨nameLabel ++ quote :: (encode entry.1 ++ quote :: encode "\r\n"), by simp [fieldContent]; rfl⟩
  exact h (hi.trans hend.isInfix)

/-- A form has one part for each argument, named by its key, exactly when its values are
separate. -/
theorem partNames_formBody_iff (hn : ∀ key ∈ arguments.keys, Nameable key) :
    partNames (formBody arguments) = some arguments.keys ↔ Separate arguments := by
  constructor
  · intro hp
    obtain ⟨parts, hr, hnames⟩ := Option.map_eq_some_iff.mp hp
    by_cases he : arguments.entries = []
    · simp [Separate, he]
    · rw [formBody_eq he] at hr
      have hlen : parts.length = (arguments.entries.map fieldContent).length := by
        have := congrArg List.length hnames
        simpa [OrderedMap.keys] using this
      intro entry hin
      exact enclosable_of_free (free_of_read hr hlen _ (List.mem_map_of_mem hin))
  · intro hs
    rw [partNames, read_formBody ((framable_iff hn).mpr hs), Option.map_some, names_fieldParts]

/-- A text that ends its own part and goes on with another one. -/
def forge (text : String) (entry : String × String) : String :=
  text ++ ("\r\n--" ++ boundary) ++
    ("\r\nContent-Disposition: form-data; name=\"" ++ entry.1 ++ "\"\r\n\r\n") ++ entry.2

theorem formBody_forge (key text : String) (entry : String × String) :
    formBody ⟨[(key, forge text entry)]⟩ = formBody ⟨[(key, text), entry]⟩ := by
  have hvalue : encode (forge text entry) = encode text ++ argumentPart entry := by
    rw [forge, argumentPart, delimiter, Text.encode_append, Text.encode_append, Text.encode_append,
      List.append_assoc, List.append_assoc, List.append_assoc]
  have hparts :
      argumentParts ⟨[(key, forge text entry)]⟩ = argumentParts ⟨[(key, text), entry]⟩ := by
    simp [argumentParts, argumentPart, hvalue]
  simp [formBody, OrderedMap.isEmpty, hparts]

end LinkShot.Request
