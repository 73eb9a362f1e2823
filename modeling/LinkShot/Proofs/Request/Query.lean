import LinkShot.Proofs.Text.Separator
import LinkShot.Proofs.Text.Utf8
import LinkShot.Request.Query
import LinkShot.Url.Parser

/-!
Queries as their reader sees them: cut at `&`, each piece at its first `=`, and both halves
percent-decoded. Keys and values come back whatever characters they have, since neither separator
can come out of the encoding.
-/
namespace LinkShot.Request

open Text (Bytes hexDigit hexValue? decode? encode utf8)
open Url (percentDecode)

variable {b : UInt8} {c : Char} {rest : List Char} {arguments : OrderedMap}

/-- The characters of an encoded key or value. -/
def isEncodedCharacter (c : Char) : Bool := c.isAlphanum || "-._~%".toList.contains c

def isQueryCharacter (c : Char) : Bool := isEncodedCharacter c || c == '=' || c == '&'

def readText (cs : List Char) : Option String := decode? (percentDecode cs)

def readParameter (piece : List Char) : Option (String × String) :=
  match piece.dropWhile (· ≠ '=') with
  | [] => none
  | _ :: value => do return (← readText (piece.takeWhile (· ≠ '=')), ← readText value)

/-- The parameters of a query, of which an empty one has none. -/
def readQuery (query : List Char) : Option (List (String × String)) :=
  if query = [] then some [] else (query.splitOn '&').mapM readParameter

theorem hexValue?_hexDigit : ∀ n < 16, hexValue? (hexDigit n) = some n := by decide

theorem isAlphanum_hexDigit : ∀ n < 16, (hexDigit n).isAlphanum = true := by decide

theorem percentDecode_plain (hc : c ≠ '%') :
    percentDecode (c :: rest) = utf8 [c] ++ percentDecode rest := by
  rw [percentDecode]
  intro _ _ _ he
  exact absurd he hc

theorem unreserved_ascii (h : isUnreserved b = true) : b.toNat < 0x80 := by
  simp only [isUnreserved, Bool.and_eq_true, decide_eq_true_eq] at h
  exact UInt8.lt_iff_toNat_lt.mp h.1

theorem unreserved_encoded (h : isUnreserved b = true) :
    isEncodedCharacter (Char.ofNat b.toNat) = true ∧ Char.ofNat b.toNat ≠ '%' := by
  simp only [isUnreserved, Bool.and_eq_true, Bool.or_eq_true, beq_iff_eq] at h
  obtain ⟨_, (((h | h) | h) | h) | h⟩ := h
  · refine ⟨by simp [isEncodedCharacter, h], fun hp => ?_⟩
    rw [hp] at h
    exact absurd h (by decide)
  all_goals
    rw [h]
    decide

theorem percentDecode_byte (b : UInt8) (rest : List Char) :
    percentDecode (percentByte b ++ rest) = b :: percentDecode rest := by
  unfold percentByte
  split
  · rename_i h
    rw [List.singleton_append, percentDecode_plain (unreserved_encoded h).2,
      Text.utf8_ascii (unreserved_ascii h)]
    simp
  · have hb : b.toNat < 256 := b.toNat_lt
    rw [List.cons_append, List.cons_append, List.singleton_append, percentDecode,
      hexValue?_hexDigit _ (by omega), hexValue?_hexDigit _ (by omega)]
    simp only [Nat.div_add_mod]
    simp

theorem percentDecode_bytes (bs : Bytes) : percentDecode (bs.flatMap percentByte) = bs := by
  induction bs with
  | nil => rfl
  | cons b bs ih => rw [List.flatMap_cons, percentDecode_byte, ih]

theorem readText_percentEncode (s : String) : readText (percentEncode s) = some s := by
  rw [readText, percentEncode, percentDecode_bytes, Text.decode_encode]

theorem encoded_percentByte (b : UInt8) : ∀ c ∈ percentByte b, isEncodedCharacter c = true := by
  unfold percentByte
  split
  · rename_i h
    simpa using (unreserved_encoded h).1
  · have hb : b.toNat < 256 := b.toNat_lt
    have hhigh := isAlphanum_hexDigit (b.toNat / 16) (by omega)
    have hlow := isAlphanum_hexDigit (b.toNat % 16) (by omega)
    simp [isEncodedCharacter, hhigh, hlow]

theorem encoded_percentEncode (s : String) :
    ∀ c ∈ percentEncode s, isEncodedCharacter c = true := by
  intro c hc
  obtain ⟨b, _, hb⟩ := List.mem_flatMap.mp hc
  exact encoded_percentByte b c hb

/-- Neither separator comes out of the encoding. -/
theorem not_mem_percentEncode (hc : isEncodedCharacter c = false) (s : String) :
    c ∉ percentEncode s := by
  intro hin
  rw [encoded_percentEncode s c hin] at hc
  exact absurd hc (by decide)

theorem readParameter_parameter (entry : String × String) :
    readParameter (parameter entry) = some entry := by
  have hname : '=' ∉ percentEncode entry.1 := not_mem_percentEncode (by decide) _
  rw [readParameter, parameter, Text.dropWhile_mark hname, Text.takeWhile_mark hname]
  simp only [readText_percentEncode, Option.pure_def, Option.bind_eq_bind, Option.bind_some]

theorem not_mem_parameter (entry : String × String) : '&' ∉ parameter entry := by
  have hkey : '&' ∉ percentEncode entry.1 := not_mem_percentEncode (by decide) _
  have hvalue : '&' ∉ percentEncode entry.2 := not_mem_percentEncode (by decide) _
  simp [parameter, hkey, hvalue]

theorem splitOn_queryText (h : arguments.entries ≠ []) :
    (queryText arguments).splitOn '&' = arguments.entries.map parameter := by
  refine List.splitOn_intercalate '&' ?_ (by simpa using h)
  intro piece hp
  obtain ⟨entry, _, rfl⟩ := List.mem_map.mp hp
  exact not_mem_parameter entry

theorem queryText_ne_nil (h : arguments.entries ≠ []) :
    queryText arguments ≠ [] := by
  intro hq
  have hpieces := splitOn_queryText h
  rw [hq, List.splitOn_nil] at hpieces
  have hin : [] ∈ arguments.entries.map parameter := by simp [← hpieces]
  obtain ⟨entry, _, he⟩ := List.mem_map.mp hin
  simp [parameter] at he

theorem readQuery_queryText (arguments : OrderedMap) :
    readQuery (queryText arguments) = some arguments.entries := by
  by_cases he : arguments.entries = []
  · simp [readQuery, queryText, he]
  · have hread : readParameter ∘ parameter = some := funext readParameter_parameter
    have hall : arguments.entries.mapM some = some (arguments.entries.map id) := List.mapM_pure
    rw [readQuery, if_neg (queryText_ne_nil he), splitOn_queryText he, List.mapM_map, hread, hall,
      List.map_id]

theorem query_parameter (entry : String × String) :
    ∀ c ∈ parameter entry, isQueryCharacter c = true := by
  intro c hc
  rcases List.mem_append.mp hc with hkey | hrest
  · simp [isQueryCharacter, encoded_percentEncode _ c hkey]
  · rcases List.mem_cons.mp hrest with rfl | hvalue
    · decide
    · simp [isQueryCharacter, encoded_percentEncode _ c hvalue]

theorem query_queryText (arguments : OrderedMap) :
    ∀ c ∈ queryText arguments, isQueryCharacter c = true := by
  rw [queryText]
  generalize arguments.entries = entries
  induction entries with
  | nil => simp
  | cons entry rest ih =>
    cases rest with
    | nil => simpa using query_parameter entry
    | cons next rest =>
      rw [List.map_cons, List.map_cons, List.intersperse_cons_cons, List.flatten_cons,
        List.flatten_cons, ← List.map_cons]
      intro c hc
      rcases List.mem_append.mp hc with hfirst | hc
      · exact query_parameter entry c hfirst
      · rcases List.mem_cons.mp hc with rfl | hrest
        · decide
        · exact ih c hrest

theorem queryAddress_eq (h : arguments.entries ≠ []) (base : String) :
    queryAddress base arguments = base ++ "?" ++ String.ofList (queryText arguments) := by
  have he : arguments.isEmpty = false := by simpa [OrderedMap.isEmpty] using h
  rw [queryAddress, if_neg (by simp [he])]
  apply String.toList_inj.mp
  simp

theorem queryAddress_eq_base_iff (base : String) :
    queryAddress base arguments = base ↔ arguments.entries = [] := by
  constructor
  · intro hb
    by_contra he
    have hlength := congrArg String.length (queryAddress_eq he base)
    rw [hb, String.length_append, String.length_append] at hlength
    have hmark : "?".length = 1 := rfl
    omega
  · intro he
    simp [queryAddress, OrderedMap.isEmpty, he]

theorem queryAddress_injective (base : String) : Function.Injective (queryAddress base) := by
  intro arguments other h
  suffices he : arguments.entries = other.entries by
    cases arguments
    cases other
    exact congrArg OrderedMap.mk he
  by_cases ha : arguments.entries = []
  · rw [(queryAddress_eq_base_iff base).mpr ha] at h
    rw [ha, (queryAddress_eq_base_iff base).mp h.symm]
  by_cases ho : other.entries = []
  · rw [(queryAddress_eq_base_iff base).mpr ho] at h
    rw [ho, (queryAddress_eq_base_iff base).mp h]
  rw [queryAddress_eq ha, queryAddress_eq ho, ← String.toList_inj] at h
  have hquery : queryText arguments = queryText other := by simpa using h
  have hread := congrArg readQuery hquery
  rw [readQuery_queryText, readQuery_queryText] at hread
  exact Option.some.inj hread

/-- Different arguments make different addresses of one base, and no key or value adds, removes
or renames a parameter: what stands behind the question mark is read as the arguments in their
order. -/
theorem query_reads_back (base : String) :
    Function.Injective (queryAddress base) ∧ ∀ arguments, ∃ query : List Char,
      queryAddress base arguments =
        (if arguments.entries = [] then base else base ++ "?" ++ String.ofList query) ∧
      (∀ c ∈ query, isQueryCharacter c = true) ∧
      readQuery query = some arguments.entries := by
  refine ⟨queryAddress_injective base, fun arguments => ⟨queryText arguments, ?_,
    query_queryText arguments, readQuery_queryText arguments⟩⟩
  split
  · rename_i he
    exact (queryAddress_eq_base_iff base).mpr he
  · rename_i he
    exact queryAddress_eq he base

end LinkShot.Request
