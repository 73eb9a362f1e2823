import LinkShot.Proofs.Request.Headers

/-!
Payloads that a request has no place for. A provider that is no upload provider sends the same
method, address and body with a payload and without; only the headers of a form without arguments
tell that there was one.
-/
namespace LinkShot.Request

open OrderedMap (under)
open Text (Bytes)

variable {provider : Provider} {arguments headers : OrderedMap} {payload : Option Bytes}

/-- The headers are those of a form as they are: no name occurs twice, and the first is the content
type. -/
def FormReady (headers : OrderedMap) : Prop :=
  (headers.keys.map lowerName).head? = some "content-type" ∧ (headers.keys.map lowerName).Nodup

instance : Decidable (FormReady headers) := inferInstanceAs (Decidable (_ ∧ _))

theorem lowerNames_formHeaders (headers : OrderedMap) :
    (formHeaders headers).keys.map lowerName = headerNames headers := by
  have hkeys := (latest_formHeaders headers).keys
  rw [OrderedMap.names_under, OrderedMap.names_under, offered, List.map_cons, List.map_cons,
    lowerName_contentType] at hkeys
  exact hkeys

/-- Where no name occurs twice, the last header of a name is the only one. -/
theorem lastNamed?_of_nodup (hn : (headers.keys.map lowerName).Nodup) {entry : String × String}
    (hin : entry ∈ headers.entries) : lastNamed? headers (lowerName entry.1) = some entry := by
  rw [← lookup_reverse]
  apply lookup_of_mem
  · rw [List.map_reverse, List.nodup_reverse, OrderedMap.names_under]
    exact hn
  · exact List.mem_reverse.mpr (List.mem_map_of_mem hin)

theorem formHeaders_eq_iff : formHeaders headers = headers ↔ FormReady headers := by
  constructor
  · intro h
    have hnames := lowerNames_formHeaders headers
    rw [h] at hnames
    constructor
    · rw [hnames, headerNames, List.eraseDups_cons]
      rfl
    · rw [hnames]
      exact nodup_eraseDups _
  · rintro ⟨hfirst, hn⟩
    have hnames : headerNames headers = headers.keys.map lowerName := by
      obtain ⟨rest, hrest⟩ := List.head?_eq_some_iff.mp hfirst
      rw [headerNames, hrest, List.eraseDups_cons, List.filter_cons]
      simp only [beq_self_eq_true, Bool.not_true, Bool.false_eq_true, if_false]
      rw [← List.eraseDups_cons, ← hrest]
      exact eraseDups_of_nodup hn
    have hentries : (formHeaders headers).entries = headers.entries := by
      rw [entries_formHeaders, hnames, OrderedMap.keys, List.map_map, List.map_map]
      refine (List.map_congr_left fun entry hin => ?_).trans (List.map_id _)
      simp [lastNamed?_of_nodup hn hin]
    exact congrArg OrderedMap.mk hentries

theorem fileField_of_post (h : provider.isUpload = false) (hpost : provider.method = .post) :
    provider.fileField = none := by
  simpa [Provider.isUpload, hpost] using h

theorem prepare_get (hget : provider.method = .get) : prepare provider arguments headers payload =
    ⟨.get, queryAddress provider.address arguments, headers, none⟩ := by
  simp [prepare, hget]

/-- A tool's form is made of the arguments, but its headers are laden by a payload as well. -/
theorem prepare_form (h : provider.isUpload = false) (hpost : provider.method = .post) :
    prepare provider arguments headers payload =
      ⟨.post, provider.address, if Laden arguments payload then formHeaders headers else headers,
        some (formBody arguments)⟩ := by
  have hbody : postBody provider arguments payload = formBody arguments := by
    simp [postBody, fileField_of_post h hpost]
  rw [← headers_post hpost]
  simp [prepare, hpost, hbody]

/-- Without a place for it a payload changes neither method nor address nor body, and what is in it
changes nothing at all. It changes the headers of a form without arguments, whose body is empty:
they become those of a laden form, unless they are already, while without a payload they stay as
they are. -/
theorem payload_unused (h : provider.isUpload = false) (bytes : Bytes) :
    let given := prepare provider arguments headers (some bytes)
    let bare := prepare provider arguments headers none
    (∀ other, prepare provider arguments headers (some other) = given) ∧
    given.method = bare.method ∧ given.address = bare.address ∧ given.body = bare.body ∧
    (given = bare ↔ provider.method = .get ∨ arguments.entries ≠ [] ∨ FormReady headers) ∧
    (provider.method = .post → arguments.entries = [] →
      bare.body = some [] ∧ bare.headers = headers ∧ Merged headers given.headers) := by
  dsimp only
  cases hm : provider.method with
  | get =>
    simp only [prepare_get hm]
    exact ⟨fun _ => trivial, trivial, trivial, trivial, by simp, nofun⟩
  | post =>
    have hladen (bytes : Bytes) : Laden arguments (some bytes) := .inr rfl
    have hbare : Laden arguments none ↔ arguments.entries ≠ [] := by simp [Laden]
    simp only [prepare_form h hm, hladen, hbare, if_true]
    refine ⟨fun _ => trivial, trivial, trivial, trivial, ?_, fun _ hnone => ⟨?_, ?_, ?_⟩⟩
    · by_cases hargs : arguments.entries = []
      · simp [hargs, formHeaders_eq_iff]
      · simp [hargs]
    · rw [formBody_eq_nil_iff.mpr hnone]
    · simp [hnone]
    · exact merged_formHeaders headers

/-- A web service that takes forms only. -/
def pastes : Provider :=
  { shots with
    name := "Pastes", address := "https://pastes.test", fileField := none, dataOnly := false }

theorem payload_unused_argument : pastes.isUpload = false ∧
    prepare pastes ⟨[("text", "a")]⟩ keyHeaders (some [0x89]) =
      prepare pastes ⟨[("text", "a")]⟩ keyHeaders none := by
  obtain ⟨-, -, -, -, hsame, -⟩ := @payload_unused pastes ⟨[("text", "a")]⟩ keyHeaders rfl [0x89]
  exact ⟨rfl, hsame.mpr (.inr (.inl (by decide)))⟩

/-- The empty body of a form that has no arguments is called multipart once a payload is given. -/
theorem unused_payload_told : pastes.isUpload = false ∧
    prepare pastes .empty .empty (some [0x50]) ≠ prepare pastes .empty .empty none ∧
    (prepare pastes .empty .empty (some [0x50])).body = some [] ∧
    (prepare pastes .empty .empty (some [0x50])).headers.entries = [("Content-Type",
      "multipart/form-data; boundary=---------------------------14737809831466499882746641449")] ∧
    (prepare pastes .empty .empty none).headers.entries = [] := by
  decide

end LinkShot.Request
