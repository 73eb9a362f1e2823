import LinkShot.Proofs.Action.Breakdown
import LinkShot.Proofs.Action.Replacement
import LinkShot.Proofs.Provider

/-!
How the placeholders of a request are resolved: entry by entry, in the order of the map, and the
arguments before the headers. An entry that asks for input reads the clipboard and puts one
question; no other entry is seen to do anything.
-/
namespace LinkShot.Action

open Routine (returns_bind_iff returns_call_bind_iff returns_pure_iff)

variable {provider : Provider} {name key value : String} {multiline : Bool}
  {entries found : List (String × String)} {h h₁ h₂ : List Exchange}
  {offered : Option String} {answers : List (Option String)} {words : List RandomWord}

/-- A key, and the key with its first character in upper case. -/
inductive Titled : List Char → List Char → Prop where
  | empty : Titled [] []
  | first {c : Char} {rest : List Char} : Titled (c :: rest) (Text.upper c ++ rest)

/-- The exchanges over one entry, and the value that it gets. -/
inductive Resolved (name : String) (multiline : Bool) :
    String × String → List Exchange → String → Prop where
  | asked {key titled value text : String} {offered answer : Option String} :
      inputToken <:+: value.toList → Titled key.toList titled.toList →
      Replaced inputToken (answer.getD "").toList value.toList text.toList →
      Resolved name multiline (key, value)
        [⟨.clipboard, .text offered⟩,
          ⟨.prompt ⟨titled ++ " is required by " ++ name, offered.getD "", multiline⟩,
            .answer answer⟩]
        text
  | drawn {key value text : String} {word : RandomWord} :
      ¬ inputToken <:+: value.toList → randomToken <:+: value.toList →
      Replaced randomToken word.text.toList value.toList text.toList →
      Resolved name multiline (key, value) [⟨.random, word⟩] text
  | plain {key value : String} :
      ¬ inputToken <:+: value.toList → ¬ randomToken <:+: value.toList →
      Resolved name multiline (key, value) [] value

/-- One entry after another. -/
inductive Walked (name : String) (multiline : Bool) :
    List (String × String) → List Exchange → List (String × String) → Prop where
  | nil : Walked name multiline [] [] []
  | cons {entry : String × String} {entries found : List (String × String)} {value : String}
      {h₁ h₂ : List Exchange} :
      Resolved name multiline entry h₁ value → Walked name multiline entries h₂ found →
      Walked name multiline (entry :: entries) (h₁ ++ h₂) ((entry.1, value) :: found)

/-- Arguments are walked first; the questions for headers never take several lines. -/
def RequestWalked (provider : Provider) (h : List Exchange)
    (arguments headers : List (String × String)) : Prop :=
  ∃ h₁ h₂, h = h₁ ++ h₂ ∧
    Walked provider.name provider.multiline provider.arguments.entries h₁ arguments ∧
    Walked provider.name false provider.headers.entries h₂ headers

def Exchange.answer? : Exchange → Option (Option String)
  | ⟨.prompt _, .answer text⟩ => some text
  | _ => none

def Exchange.word? : Exchange → Option RandomWord
  | ⟨.random, word⟩ => some word
  | _ => none

/-- The clipboard always offers the same, and these are the answers and the words that come. -/
structure Replying (offered : Option String) (answers : List (Option String))
    (words : List RandomWord) (h : List Exchange) : Prop where
  offers : ∀ text, (⟨.clipboard, .text text⟩ : Exchange) ∈ h → text = offered
  answers : h.filterMap Exchange.answer? = answers
  words : h.filterMap Exchange.word? = words

def asks (entry : String × String) : Bool := occurs inputToken entry.2.toList

def draws (entry : String × String) : Bool := !asks entry && occurs randomToken entry.2.toList

/-- How many answers a request takes. -/
def asking (provider : Provider) : Nat :=
  provider.arguments.entries.countP asks + provider.headers.entries.countP asks

/-- How many words a request takes. -/
def drawing (provider : Provider) : Nat :=
  provider.arguments.entries.countP draws + provider.headers.entries.countP draws

theorem inputToken_ne_nil : inputToken ≠ [] := by decide

theorem randomToken_ne_nil : randomToken ≠ [] := by decide

theorem exists_titled (key : String) : ∃ titled : String, Titled key.toList titled.toList := by
  cases hk : key.toList with
  | nil => exact ⟨"", .empty⟩
  | cons c rest => exact ⟨.ofList (Text.upper c ++ rest), by simpa using .first⟩

/-- A question names what it asks for and the provider that asks. -/
theorem promptLabel_of_titled {titled : String} (h : Titled key.toList titled.toList) :
    promptLabel key name = titled ++ " is required by " ++ name := by
  rw [promptLabel]
  generalize hk : key.toList = cs at h
  generalize ht : titled.toList = ts at h
  rw [← String.ofList_toList (s := titled), ht]
  cases h with
  | empty | first => rfl

theorem replaced_iff_eq_replace {token : List Char} {new text : String} (hne : token ≠ []) :
    Replaced token new.toList value.toList text.toList ↔ text = replace value token new := by
  rw [replaced_iff hne, replace, ← String.toList_inj, String.toList_ofList, eq_comm]

theorem resolve_returns_iff {text : String} :
    (resolve value key name multiline).Returns h (some text) ↔
      Resolved name multiline (key, value) h text := by
  constructor
  · intro hr
    unfold resolve at hr
    split at hr
    · rename_i hi
      obtain ⟨offered, _, rfl, hprompt⟩ := returns_call_bind_iff.mp hr
      rcases offered with offered | _
      · obtain ⟨answer, _, rfl, hend⟩ := returns_call_bind_iff.mp hprompt
        rcases answer with answer | _
        · obtain ⟨rfl, he⟩ := returns_pure_iff.mp hend
          have htext := Option.some.inj he
          obtain ⟨titled, ht⟩ := exists_titled key
          rw [promptLabel_of_titled ht]
          exact .asked (occurs_iff.mp hi) ht
            ((replaced_iff_eq_replace inputToken_ne_nil).mpr htext)
        · simp at hend
      · simp at hprompt
    · rename_i hi
      split at hr
      · rename_i hd
        obtain ⟨word, _, rfl, hend⟩ := returns_call_bind_iff.mp hr
        obtain ⟨rfl, he⟩ := returns_pure_iff.mp hend
        have htext := Option.some.inj he
        exact .drawn (mt occurs_iff.mpr hi) (occurs_iff.mp hd)
          ((replaced_iff_eq_replace randomToken_ne_nil).mpr htext)
      · rename_i hd
        obtain ⟨rfl, he⟩ := returns_pure_iff.mp hr
        cases he
        exact .plain (mt occurs_iff.mpr hi) (mt occurs_iff.mpr hd)
  · intro hr
    unfold resolve
    cases hr with
    | asked hi ht hrep =>
      rw [if_pos (occurs_iff.mpr hi), promptLabel_of_titled ht,
        (replaced_iff_eq_replace inputToken_ne_nil).mp hrep]
      exact .answer (.answer (.refl _))
    | drawn hi hd hrep =>
      rw [if_neg (mt occurs_iff.mp hi), if_pos (occurs_iff.mpr hd),
        (replaced_iff_eq_replace randomToken_ne_nil).mp hrep]
      exact .answer (.refl _)
    | plain hi hd =>
      rw [if_neg (mt occurs_iff.mp hi), if_neg (mt occurs_iff.mp hd)]
      exact .refl _

theorem resolveEntries_returns_iff :
    (resolveEntries name multiline entries).Returns h (some found) ↔
      Walked name multiline entries h found := by
  constructor
  · intro hr
    induction entries generalizing h found with
    | nil =>
      obtain ⟨rfl, he⟩ := returns_pure_iff.mp hr
      cases he
      exact .nil
    | cons entry rest ih =>
      obtain ⟨value, h₁, _, rfl, hvalue, hr⟩ := returns_bind_iff.mp hr
      cases value with
      | none => simp at hr
      | some value =>
        obtain ⟨others, h₂, _, rfl, hrest, hend⟩ := returns_bind_iff.mp hr
        cases others with
        | none => simp at hend
        | some others =>
          obtain ⟨rfl, he⟩ := returns_pure_iff.mp hend
          cases he
          rw [List.append_nil]
          exact .cons (resolve_returns_iff.mp hvalue) (ih hrest)
  · intro hw
    induction hw with
    | nil => exact .refl _
    | @cons entry entries found value h₁ h₂ hvalue _ ih =>
      refine returns_bind_iff.mpr ⟨some value, h₁, h₂, rfl, resolve_returns_iff.mpr hvalue, ?_⟩
      exact returns_bind_iff.mpr ⟨some found, h₂, [], by simp, ih, .refl _⟩

theorem resolveAll_returns_iff {map resolved : OrderedMap} :
    (resolveAll map name multiline).Returns h (some resolved) ↔
      ∃ found, Walked name multiline map.entries h found ∧ resolved = .ofList found := by
  constructor
  · intro hr
    obtain ⟨found, h₁, _, rfl, hentries, hend⟩ := returns_bind_iff.mp hr
    obtain ⟨rfl, he⟩ := returns_pure_iff.mp hend
    obtain ⟨found, rfl, rfl⟩ := Option.map_eq_some_iff.mp he.symm
    rw [List.append_nil]
    exact ⟨found, resolveEntries_returns_iff.mp hentries, rfl⟩
  · rintro ⟨found, hw, rfl⟩
    exact returns_bind_iff.mpr
      ⟨some found, h, [], by simp, resolveEntries_returns_iff.mpr hw, .refl _⟩

theorem resolveRequest_returns_iff {resolved : OrderedMap × OrderedMap} :
    (resolveRequest provider).Returns h (some resolved) ↔
      ∃ arguments headers, RequestWalked provider h arguments headers ∧
        resolved = (.ofList arguments, .ofList headers) := by
  constructor
  · intro hr
    obtain ⟨arguments, h₁, _, rfl, harguments, hr⟩ := returns_bind_iff.mp hr
    cases arguments with
    | none => simp at hr
    | some arguments =>
      obtain ⟨headers, h₂, _, rfl, hheaders, hend⟩ := returns_bind_iff.mp hr
      cases headers with
      | none => simp at hend
      | some headers =>
        obtain ⟨rfl, he⟩ := returns_pure_iff.mp hend
        cases he
        obtain ⟨as, has, rfl⟩ := resolveAll_returns_iff.mp harguments
        obtain ⟨hs, hhs, rfl⟩ := resolveAll_returns_iff.mp hheaders
        exact ⟨as, hs, ⟨h₁, h₂, by simp, has, hhs⟩, rfl⟩
  · rintro ⟨arguments, headers, ⟨h₁, h₂, rfl, ha, hh⟩, rfl⟩
    refine returns_bind_iff.mpr ⟨_, h₁, h₂, rfl, resolveAll_returns_iff.mpr ⟨_, ha, rfl⟩, ?_⟩
    exact returns_bind_iff.mpr
      ⟨_, h₂, [], by simp, resolveAll_returns_iff.mpr ⟨_, hh, rfl⟩, .refl _⟩

theorem keys_of_walked (hw : Walked name multiline entries h found) :
    found.map (·.1) = entries.map (·.1) := by
  induction hw with
  | nil => rfl
  | cons _ _ ih => rw [List.map_cons, List.map_cons, ih]

theorem replying_nil : Replying offered [] [] [] := ⟨by simp, rfl, rfl⟩

theorem replying_append {answers₁ answers₂ : List (Option String)} {words₁ words₂ : List RandomWord}
    (hr₁ : Replying offered answers₁ words₁ h₁) (hr₂ : Replying offered answers₂ words₂ h₂) :
    Replying offered (answers₁ ++ answers₂) (words₁ ++ words₂) (h₁ ++ h₂) where
  offers text hin := (List.mem_append.mp hin).elim (hr₁.offers text) (hr₂.offers text)
  answers := by rw [List.filterMap_append, hr₁.answers, hr₂.answers]
  words := by rw [List.filterMap_append, hr₁.words, hr₂.words]

theorem exists_append_of_length {α : Type} {xs : List α} {m n : Nat} (h : xs.length = m + n) :
    ∃ front back, xs = front ++ back ∧ front.length = m ∧ back.length = n := by
  refine ⟨xs.take m, xs.drop m, (List.take_append_drop m xs).symm, ?_, ?_⟩
  · rw [List.length_take]
    omega
  · rw [List.length_drop]
    omega

/-- An entry takes one answer if it asks, one word if it draws, and comes to an end with them. -/
theorem exists_resolved (name : String) (multiline : Bool) (entry : String × String)
    (offered : Option String) (ha : answers.length = if asks entry then 1 else 0)
    (hw : words.length = if draws entry then 1 else 0) :
    ∃ h value, Resolved name multiline entry h value ∧ Replying offered answers words h := by
  obtain ⟨key, value⟩ := entry
  by_cases hi : occurs inputToken value.toList = true
  · obtain ⟨answer, rfl⟩ : ∃ answer, answers = [answer] :=
      List.length_eq_one_iff.mp (by simpa [asks, hi] using ha)
    obtain rfl : words = [] := List.length_eq_zero_iff.mp (by simpa [draws, asks, hi] using hw)
    obtain ⟨titled, ht⟩ := exists_titled key
    refine ⟨[⟨.clipboard, .text offered⟩, _], _, .asked (occurs_iff.mp hi) ht
      ((replaced_iff_eq_replace inputToken_ne_nil).mpr rfl), ?_, rfl, rfl⟩
    simp
  · obtain rfl : answers = [] := List.length_eq_zero_iff.mp (by simpa [asks, hi] using ha)
    by_cases hd : occurs randomToken value.toList = true
    · obtain ⟨word, rfl⟩ : ∃ word, words = [word] :=
        List.length_eq_one_iff.mp (by simpa [draws, asks, hi, hd] using hw)
      refine ⟨_, _, .drawn (mt occurs_iff.mpr hi) (occurs_iff.mp hd)
        ((replaced_iff_eq_replace randomToken_ne_nil).mpr rfl), ?_, rfl, rfl⟩
      simp
    · obtain rfl : words = [] :=
        List.length_eq_zero_iff.mp (by simpa [draws, asks, hi, hd] using hw)
      exact ⟨[], value, .plain (mt occurs_iff.mpr hi) (mt occurs_iff.mpr hd), replying_nil⟩

theorem exists_walked (name : String) (multiline : Bool) (entries : List (String × String))
    (offered : Option String) (ha : answers.length = entries.countP asks)
    (hw : words.length = entries.countP draws) :
    ∃ h found, Walked name multiline entries h found ∧ Replying offered answers words h := by
  induction entries generalizing answers words with
  | nil =>
    obtain rfl := List.length_eq_zero_iff.mp ha
    obtain rfl := List.length_eq_zero_iff.mp hw
    exact ⟨[], [], .nil, replying_nil⟩
  | cons entry rest ih =>
    rw [List.countP_cons, Nat.add_comm] at ha hw
    obtain ⟨answers₁, answers₂, rfl, ha₁, ha₂⟩ := exists_append_of_length ha
    obtain ⟨words₁, words₂, rfl, hw₁, hw₂⟩ := exists_append_of_length hw
    obtain ⟨h₁, value, hresolved, hr₁⟩ := exists_resolved name multiline entry offered ha₁ hw₁
    obtain ⟨h₂, found, hwalked, hr₂⟩ := ih ha₂ hw₂
    exact ⟨h₁ ++ h₂, _, .cons hresolved hwalked, replying_append hr₁ hr₂⟩

theorem exists_requestWalked (provider : Provider) (offered : Option String)
    (ha : answers.length = asking provider) (hw : words.length = drawing provider) :
    ∃ h arguments headers, RequestWalked provider h arguments headers ∧
      Replying offered answers words h := by
  obtain ⟨answers₁, answers₂, rfl, ha₁, ha₂⟩ := exists_append_of_length ha
  obtain ⟨words₁, words₂, rfl, hw₁, hw₂⟩ := exists_append_of_length hw
  obtain ⟨h₁, arguments, hwalked₁, hr₁⟩ :=
    exists_walked provider.name provider.multiline provider.arguments.entries offered ha₁ hw₁
  obtain ⟨h₂, headers, hwalked₂, hr₂⟩ :=
    exists_walked provider.name false provider.headers.entries offered ha₂ hw₂
  exact ⟨h₁ ++ h₂, arguments, headers, ⟨h₁, h₂, rfl, hwalked₁, hwalked₂⟩,
    replying_append hr₁ hr₂⟩

theorem requestWalked_entries {arguments headers : OrderedMap} (hk : provider.Keyed)
    (hr : (resolveRequest provider).Returns h (some (arguments, headers))) :
    RequestWalked provider h arguments.entries headers.entries := by
  obtain ⟨as, hs, hw, he⟩ := resolveRequest_returns_iff.mp hr
  obtain ⟨rfl, rfl⟩ := Prod.mk.inj he
  have ⟨_, _, _, has, hhs⟩ := hw
  have ha : (as.map (·.1)).Nodup := keys_of_walked has ▸ hk.arguments
  have hh : (hs.map (·.1)).Nodup := keys_of_walked hhs ▸ hk.headers
  rwa [OrderedMap.entries_ofList ha, OrderedMap.entries_ofList hh]

theorem keys_of_resolved {arguments headers : OrderedMap}
    (hr : (resolveRequest provider).Returns h (some (arguments, headers))) :
    (arguments.keys = provider.arguments.keys ∧ headers.keys = provider.headers.keys) ↔
      provider.Keyed := by
  constructor
  · obtain ⟨as, hs, _, he⟩ := resolveRequest_returns_iff.mp hr
    obtain ⟨rfl, rfl⟩ := Prod.mk.inj he
    rintro ⟨ha, hh⟩
    exact ⟨ha ▸ OrderedMap.nodup_ofList as, hh ▸ OrderedMap.nodup_ofList hs⟩
  · intro hk
    obtain ⟨_, _, _, ha, hh⟩ := requestWalked_entries hk hr
    exact ⟨keys_of_walked ha, keys_of_walked hh⟩

/-- The placeholders of a request are resolved by one walk over its arguments and headers, which
breaks off only where the clipboard or the dialog crashes and ends with any answers and words that
come. The keys keep their number and order, as no key stands twice in what a definition file
gives. -/
theorem resolves_in_order (provider : Provider) :
    (∀ h resolved, (resolveRequest provider).Returns h (some resolved) ↔
      ∃ arguments headers, RequestWalked provider h arguments headers ∧
        resolved = (.ofList arguments, .ofList headers)) ∧
    (∀ h, (resolveRequest provider).Returns h none → Broken h) ∧
    (∀ offered answers words, answers.length = asking provider → words.length = drawing provider →
      ∃ h resolved, (resolveRequest provider).Returns h (some resolved) ∧
        Replying offered answers words h) ∧
    (∀ h arguments headers, (resolveRequest provider).Returns h (some (arguments, headers)) →
      (provider.Keyed → RequestWalked provider h arguments.entries headers.entries) ∧
      (arguments.keys = provider.arguments.keys ∧ headers.keys = provider.headers.keys ↔
        provider.Keyed)) ∧
    ∀ raw, Provider.parse raw = .ok provider → provider.Keyed := by
  refine ⟨fun h resolved => resolveRequest_returns_iff, ?_, ?_, ?_,
    fun raw => Provider.keyed_of_parse⟩
  · intro h hr
    exact (resolveRequest_breaksOff provider h none hr).mp rfl
  · intro offered answers words ha hw
    obtain ⟨h, arguments, headers, hwalked, hreplying⟩ :=
      exists_requestWalked provider offered ha hw
    exact ⟨h, _, resolveRequest_returns_iff.mpr ⟨_, _, hwalked, rfl⟩, hreplying⟩
  · intro h arguments headers hr
    exact ⟨fun hk => requestWalked_entries hk hr, keys_of_resolved hr⟩

/-- A tool whose values overlap, mix and repeat the tokens. -/
def mixedTool : Provider where
  name := "Mixed"
  method := .post
  address := "https://mixed.test"
  fileField := none
  dataOnly := false
  multiline := true
  arguments := ⟨[("text", "$input$input$ $random$"), ("id", "$random$-$random$"), ("kind", "$x$")]⟩
  headers := ⟨[("ébauche", "$input$")]⟩
  patterns := []
  template := none
  source := none

/-- What is seen of one run of the tool's request. -/
def mixedRun : List Exchange :=
  [⟨.clipboard, .text (some "seed")⟩,
    ⟨.prompt ⟨"Text is required by Mixed", "seed", true⟩, .answer (some "$input$ $random$")⟩,
    ⟨.random, .ofPicks fun _ => 0⟩,
    ⟨.clipboard, .text (some "seed")⟩,
    ⟨.prompt ⟨"Ébauche is required by Mixed", "seed", false⟩, .answer none⟩]

/-- An answer that holds tokens stays as it is, and so does what is left of an overlap. -/
theorem resolves_in_order_mixed :
    (resolveRequest mixedTool).Returns mixedRun (some
      (⟨[("text", "$input$ $random$input$ $random$"), ("id", "AAAAAAAA-AAAAAAAA"),
          ("kind", "$x$")]⟩,
        ⟨[("ébauche", "")]⟩)) ∧
    mixedTool.Keyed ∧
    RequestWalked mixedTool mixedRun
      [("text", "$input$ $random$input$ $random$"), ("id", "AAAAAAAA-AAAAAAAA"), ("kind", "$x$")]
      [("ébauche", "")] ∧
    Replying (some "seed") [some "$input$ $random$", none] [.ofPicks fun _ => 0] mixedRun := by
  let word : RandomWord := .ofPicks fun _ => 0
  have run : (resolveRequest mixedTool).Returns
      [⟨.clipboard, .text (some "seed")⟩,
        ⟨.prompt ⟨promptLabel "text" "Mixed", "seed", true⟩, .answer (some "$input$ $random$")⟩,
        ⟨.random, word⟩, ⟨.clipboard, .text (some "seed")⟩,
        ⟨.prompt ⟨promptLabel "ébauche" "Mixed", "seed", false⟩, .answer none⟩]
      (some (.ofList [("text", replace "$input$input$ $random$" inputToken "$input$ $random$"),
          ("id", replace "$random$-$random$" randomToken word.text), ("kind", "$x$")],
        .ofList [("ébauche", replace "$input$" inputToken "")])) :=
    .answer (.answer (.answer (.answer (.answer (.refl _)))))
  have text : replace "$input$input$ $random$" inputToken "$input$ $random$" =
      "$input$ $random$input$ $random$" := by decide
  have id : replace "$random$-$random$" randomToken word.text = "AAAAAAAA-AAAAAAAA" := by decide
  have token : replace "$input$" inputToken "" = "" := by decide
  have first : promptLabel "text" "Mixed" = "Text is required by Mixed" := by decide +kernel
  have second : promptLabel "ébauche" "Mixed" = "Ébauche is required by Mixed" := by
    decide +kernel
  have hk : mixedTool.Keyed := ⟨by decide, by decide⟩
  rw [text, id, token, first, second] at run
  exact ⟨run, hk, ((resolves_in_order mixedTool).2.2.2.1 _ _ _ run).1 hk, by simp [mixedRun],
    rfl, rfl⟩

end LinkShot.Action
