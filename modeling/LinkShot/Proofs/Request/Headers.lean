import LinkShot.Proofs.OrderedMap.Adding
import LinkShot.Proofs.Request.Framing

/-!
The headers of forms and payloads, and what they come to as fields. A form's headers are its own
content type and the provider's headers, the latest of each name; the fields are those of the
provider's headers by themselves, and the content type where the provider has none.
-/
namespace LinkShot.Request

open OrderedMap (under)
open Text (Bytes)

variable {provider poster getter : Provider} {arguments arguments' headers : OrderedMap}
  {payload payload' : Option Bytes}

/-- Something is given that a POST request can carry. -/
def Laden (arguments : OrderedMap) (payload : Option Bytes) : Prop :=
  arguments.entries ≠ [] ∨ payload.isSome

instance : Decidable (Laden arguments payload) := inferInstanceAs (Decidable (_ ∨ _))

/-- The last of the headers with a name, which is written in small letters. -/
def lastNamed? (headers : OrderedMap) (name : String) : Option (String × String) :=
  headers.entries.reverse.find? fun entry => lowerName entry.1 == name

/-- The names of a form's headers, in the order in which they first occur. -/
def headerNames (headers : OrderedMap) : List String :=
  ("content-type" :: headers.keys.map lowerName).eraseDups

/-- What the headers of a form are: of each name the provider's last, in its spelling, and the
content type of forms where the provider has none. -/
structure Merged (headers sent : OrderedMap) : Prop where
  entries : sent.entries = (headerNames headers).map fun name =>
    (lastNamed? headers name).getD ("Content-Type", multipartType)
  distinct : (sent.keys.map lowerName).Nodup
  contentType : ∀ entry, lastNamed? headers "content-type" = some entry →
    sent.entries.head? = some entry
  kept : ∀ before entry behind, headers.entries = before ++ entry :: behind →
    entry ∈ sent.entries ∨ ∃ later ∈ behind, lowerName later.1 = lowerName entry.1

/-- All that a form's headers are made of, in order. -/
def offered (headers : OrderedMap) : List (String × String) :=
  ("Content-Type", multipartType) :: headers.entries

theorem lowerName_contentType : lowerName "Content-Type" = "content-type" := by decide

theorem latest_formHeaders (headers : OrderedMap) :
    Latest (under lowerName (offered headers)) (under lowerName (formHeaders headers).entries) := by
  have hfold : formHeaders headers = (offered headers).foldl (OrderedMap.add lowerName) .empty := by
    simp only [formHeaders, OrderedMap.insertName_eq]
    rfl
  rw [hfold]
  exact OrderedMap.latest_added _ _

theorem lookup_reverse (headers : OrderedMap) (name : String) :
    (under lowerName headers.entries).reverse.lookup name = lastNamed? headers name := by
  have hfind (entries : List (String × String)) : (under lowerName entries).lookup name =
      entries.find? fun entry => lowerName entry.1 == name := by
    induction entries with
    | nil => rfl
    | cons entry entries ih =>
      rw [OrderedMap.under_cons, lookup_pair, List.find?_cons, ih]
      by_cases h : name = lowerName entry.1
      · simp [h]
      · simp [h, beq_false_of_ne (Ne.symm h)]
  rw [under, ← List.map_reverse]
  exact hfind _

/-- The form's own content type comes before every header. -/
theorem lookup_offered (headers : OrderedMap) (name : String) :
    (under lowerName (offered headers)).reverse.lookup name = (lastNamed? headers name).or
      (if name = "content-type" then some ("Content-Type", multipartType) else none) := by
  rw [offered, OrderedMap.under_cons, List.reverse_cons, List.lookup_append, lookup_reverse,
    lowerName_contentType, lookup_pair]
  rfl

theorem entries_formHeaders (headers : OrderedMap) :
    (formHeaders headers).entries = (headerNames headers).map fun name =>
      (lastNamed? headers name).getD ("Content-Type", multipartType) := by
  have hvalues := (latest_formHeaders headers).values_eq ("Content-Type", multipartType)
  have hnames : (under lowerName (offered headers)).map (·.1) =
      "content-type" :: headers.keys.map lowerName := by
    rw [OrderedMap.names_under, offered, List.map_cons, List.map_cons, lowerName_contentType]
    rfl
  have hentries : (under lowerName (formHeaders headers).entries).map (·.2) =
    (formHeaders headers).entries := by simp [under, Function.comp_def]
  rw [hnames, hentries] at hvalues
  rw [hvalues, headerNames]
  refine List.map_congr_left fun name _ => ?_
  rw [lookup_offered]
  cases lastNamed? headers name with
  | some entry => rfl
  | none => split <;> rfl

theorem nodup_formHeaders (headers : OrderedMap) :
    ((formHeaders headers).keys.map lowerName).Nodup := by
  have hlower : (formHeaders headers).keys.map lowerName =
      (formHeaders headers).names.map String.ofList := List.map_map.symm
  rw [hlower]
  exact (OrderedMap.names_formHeaders headers).map fun _ _ => String.ofList_inj.mp

theorem lookup_formHeaders (headers : OrderedMap) (name : String) :
    (under lowerName (formHeaders headers).entries).lookup name = (lastNamed? headers name).or
      (if name = "content-type" then some ("Content-Type", multipartType) else none) :=
  ((latest_formHeaders headers).values name).trans (lookup_offered headers name)

theorem merged_formHeaders (headers : OrderedMap) : Merged headers (formHeaders headers) where
  entries := entries_formHeaders headers
  distinct := nodup_formHeaders headers
  contentType entry h := by
    simp [entries_formHeaders, headerNames, List.eraseDups_cons, h]
  kept before entry behind h := by
    rw [or_iff_not_imp_right]
    intro hlast
    have hfound : lastNamed? headers (lowerName entry.1) = some entry := by
      have hnone :
          (behind.reverse.find? fun later => lowerName later.1 == lowerName entry.1) = none := by
        rw [List.find?_eq_none]
        intro later hin hname
        exact hlast ⟨later, List.mem_reverse.mp hin, eq_of_beq hname⟩
      simp [lastNamed?, h, hnone]
    have hlookup := lookup_formHeaders headers (lowerName entry.1)
    rw [hfound, Option.some_or] at hlookup
    obtain ⟨sent, hin, heq⟩ := List.mem_map.mp (mem_of_lookup hlookup)
    obtain ⟨-, rfl⟩ := Prod.mk.inj heq
    exact hin

theorem headers_post (h : provider.method = .post) :
    (prepare provider arguments headers payload).headers =
      if Laden arguments payload then formHeaders headers else headers := by
  have hbody : (postBody provider arguments none).isEmpty = arguments.isEmpty := by
    have hform : postBody provider arguments none = formBody arguments := by
      unfold postBody
      split <;> simp_all
    rw [hform, Bool.eq_iff_iff, List.isEmpty_iff, formBody_eq_nil_iff, OrderedMap.isEmpty,
      List.isEmpty_iff]
  cases payload with
  | none =>
    by_cases he : arguments.entries = [] <;>
      simp [prepare, h, hbody, Laden, OrderedMap.isEmpty, he]
  | some bytes => simp [prepare, h, Laden]

theorem headers_get (h : provider.method = .get) :
    (prepare provider arguments headers payload).headers = headers := by
  simp [prepare, h]

/-- A form or a payload is sent with the last header of each name, the content type first. -/
theorem merged_by_name (h : provider.method = .post) (hl : Laden arguments payload) :
    Merged headers (prepare provider arguments headers payload).headers := by
  rw [headers_post h, if_pos hl]
  exact merged_formHeaders headers

/-- A web service that takes screenshots as they are. -/
def shots : Provider where
  name := "Shots"
  method := .post
  address := "https://shots.test"
  fileField := some "image"
  dataOnly := true
  multiline := false
  arguments := .empty
  headers := .empty
  patterns := []
  template := none
  source := none

/-- Three spellings of one name around two of another. -/
def respelled : OrderedMap :=
  ⟨[("accept", "a"), ("content-type", "image/png"), ("ACCEPT", "b"), ("Content-Type", "image/gif"),
    ("Accept", "c")]⟩

theorem merged_by_name_respelled : shots.method = .post ∧ Laden .empty (some [0x89]) ∧
    Merged respelled (prepare shots .empty respelled (some [0x89])).headers ∧
    (prepare shots .empty respelled (some [0x89])).headers.entries =
      [("Content-Type", "image/gif"), ("Accept", "c")] :=
  ⟨rfl, by decide, merged_by_name rfl (by decide), by decide⟩

/-- Headers that can be sent. -/
def ValidHeaders (headers : OrderedMap) : Prop :=
  ∀ entry ∈ headers.entries, isHeaderName entry.1 = true ∧ isHeaderValue entry.2 = true

instance : Decidable (ValidHeaders headers) := inferInstanceAs (Decidable (∀ entry ∈ _, _))

def lowered (entries : List (String × String)) : List (String × String) :=
  entries.map fun entry => (lowerName entry.1, entry.2)

theorem fields_of_valid (h : ValidHeaders headers) :
    fields .empty headers.entries = .ok (.ofList (lowered headers.entries)) := by
  have hfold (sent : OrderedMap) (entries : List (String × String))
      (h : ∀ entry ∈ entries, isHeaderName entry.1 = true ∧ isHeaderValue entry.2 = true) :
      fields sent entries =
        .ok ((lowered entries).foldl (fun m p => m.insert p.1 p.2) sent) := by
    induction entries generalizing sent with
    | nil => rfl
    | cons entry entries ih =>
      obtain ⟨⟨hname, hvalue⟩, h⟩ := List.forall_mem_cons.mp h
      simp only [fields, hname, hvalue, Bool.not_true, Bool.false_eq_true, if_false]
      exact ih _ h
  exact hfold .empty headers.entries h

theorem lowered_eq (entries : List (String × String)) :
    lowered entries = (under lowerName entries).map fun p => (p.1, p.2.2) := by
  simp [lowered, under]

/-- A field has the value of the last header with its name. -/
theorem get?_lowered (headers : OrderedMap) (name : String) :
    (OrderedMap.ofList (lowered headers.entries)).get? name =
      (lastNamed? headers name).map (·.2) := by
  rw [OrderedMap.get?, (OrderedMap.latest_ofList _).values, lowered_eq, ← List.map_reverse,
    lookup_map_values, lookup_reverse]

/-- The names of a form's headers are distinct, so that sending them loses nothing. -/
theorem get?_lowered_formHeaders (headers : OrderedMap) (name : String) :
    (OrderedMap.ofList (lowered (formHeaders headers).entries)).get? name =
      ((lastNamed? headers name).map (·.2)).or
        (if name = "content-type" then some multipartType else none) := by
  have hn : ((lowered (formHeaders headers).entries).map (·.1)).Nodup := by
    simpa [lowered, OrderedMap.keys, Function.comp_def] using nodup_formHeaders headers
  rw [OrderedMap.get?, OrderedMap.entries_ofList hn, lowered_eq, lookup_map_values,
    lookup_formHeaders]
  cases lastNamed? headers name with
  | some entry => rfl
  | none => split <;> rfl

theorem lastNamed?_eq_none_iff :
    lastNamed? headers name = none ↔ ∀ key ∈ headers.keys, lowerName key ≠ name := by
  simp [lastNamed?, OrderedMap.keys]

theorem valid_formHeaders (h : ValidHeaders headers) : ValidHeaders (formHeaders headers) := by
  have hform : isHeaderName "Content-Type" = true ∧ isHeaderValue multipartType = true := by
    decide +kernel
  intro entry hin
  rw [entries_formHeaders] at hin
  obtain ⟨name, -, rfl⟩ := List.mem_map.mp hin
  cases hlast : lastNamed? headers name with
  | some entry => exact h entry (List.mem_reverse.mp (List.mem_of_find?_eq_some hlast))
  | none => exact hform

/-- The fields of a POST request are those of a GET request with the same headers, and the content
type of forms if the request is laden and none of the headers is a content type. -/
theorem fields_agree (hs : ValidHeaders headers) (hpost : poster.method = .post)
    (hget : getter.method = .get) :
    ∃ posted got,
      fields .empty (prepare poster arguments headers payload).headers.entries = .ok posted ∧
      fields .empty (prepare getter arguments' headers payload').headers.entries = .ok got ∧
      (∀ name, posted.get? name =
        if name = "content-type" ∧ Laden arguments payload ∧
            ∀ key ∈ headers.keys, lowerName key ≠ "content-type" then some multipartType
        else got.get? name) ∧
      ∀ key ∈ headers.keys, posted.get? (lowerName key) = got.get? (lowerName key) := by
  obtain ⟨posted, hposted, hagree⟩ : ∃ posted,
      fields .empty (prepare poster arguments headers payload).headers.entries = .ok posted ∧
      ∀ name, posted.get? name =
        if name = "content-type" ∧ Laden arguments payload ∧
            ∀ key ∈ headers.keys, lowerName key ≠ "content-type" then some multipartType
        else (OrderedMap.ofList (lowered headers.entries)).get? name := by
    rw [headers_post hpost]
    by_cases hl : Laden arguments payload
    · rw [if_pos hl]
      refine ⟨_, fields_of_valid (valid_formHeaders hs), fun name => ?_⟩
      rw [get?_lowered_formHeaders, get?_lowered]
      simp only [← lastNamed?_eq_none_iff]
      by_cases hname : name = "content-type"
      · subst hname
        cases lastNamed? headers "content-type" <;> simp [hl]
      · simp [hname]
    · rw [if_neg hl]
      exact ⟨_, fields_of_valid hs, fun name => by simp [hl]⟩
  rw [headers_get hget]
  refine ⟨posted, _, hposted, fields_of_valid hs, hagree, fun key hin => ?_⟩
  rw [hagree, if_neg]
  rintro ⟨hname, -, hnone⟩
  exact hnone key hin hname

/-- One name in two spellings, and no content type. -/
def keyHeaders : OrderedMap := ⟨[("X-Key", "1"), ("Accept", "*/*"), ("x-key", "2")]⟩

theorem fields_agree_keyHeaders : ValidHeaders keyHeaders ∧ ∃ posted got,
    fields .empty (prepare shots .empty keyHeaders (some [0x89])).headers.entries = .ok posted ∧
    fields .empty (prepare { shots with method := .get } .empty keyHeaders none).headers.entries =
      .ok got ∧
    got.entries = [("x-key", "2"), ("accept", "*/*")] ∧
    posted.get? "content-type" = some
      "multipart/form-data; boundary=---------------------------14737809831466499882746641449" ∧
    posted.get? "x-key" = got.get? "x-key" := by
  have hs : ValidHeaders keyHeaders := by decide
  obtain ⟨posted, got, hposted, hgot, hagree, hkeys⟩ :=
    @fields_agree shots { shots with method := .get } .empty .empty keyHeaders (some [0x89]) none hs
      rfl rfl
  have hentries :
      fields .empty keyHeaders.entries = .ok ⟨[("x-key", "2"), ("accept", "*/*")]⟩ := by
    decide
  obtain rfl : got = ⟨[("x-key", "2"), ("accept", "*/*")]⟩ :=
    Except.ok.inj (hgot.symm.trans hentries)
  refine ⟨hs, posted, _, hposted, hgot, rfl, ?_, hkeys "x-key" (by decide)⟩
  rw [hagree, if_pos (by decide)]
  decide

end LinkShot.Request
