import LinkShot.Proofs.Calendar
import LinkShot.Proofs.Files
import LinkShot.Proofs.Text.Utf8
import LinkShot.UploadLog

/-!
The log as lines: it grows by one line for every result, from which the result is read back, as long
as no result has a line feed in it.
-/
namespace LinkShot.UploadLog

variable {files files' made : Files} {path : FilePath} {result : String} {time : Moment}
  {old rest : Text.Bytes} {entries : List (String × Moment)}

/-- The byte that ends a line. -/
def lineFeed : UInt8 := 10

/-- The byte that ends the date and the time of an entry. -/
def bracket : UInt8 := 93

/-- What an append adds to the log. -/
def added (e : String × Moment) : Text.Bytes := Text.encode (entry e.1 e.2 ++ "\n")

def appendAll (files : Files) (path : FilePath) (entries : List (String × Moment)) :
    Except Error Files :=
  entries.foldlM (fun files e => append files path e.1 e.2) files

/-- Nothing, or lines that have all been ended. -/
def Ended (bs : Text.Bytes) : Prop := bs = [] ∨ bs.getLast? = some lineFeed

/-- The lines of a text in which the last one has been ended. -/
def lines (bs : Text.Bytes) : List Text.Bytes := (Text.split lineFeed [] bs).dropLast

/-- The result in a line: what follows the date and the time. -/
def resultOf (line : Text.Bytes) : Option String :=
  Text.decode? ((line.dropWhile (· ≠ bracket)).drop 2)

/-- An entry up to its bracket. -/
def opening (time : Moment) : String :=
  "[" ++ Calendar.dateText time ++ " " ++ Calendar.timeText time

theorem makeFolder_of_read (hw : files.Working) (hr : files.read path = .ok old) :
    makeFolder files path = .ok files := by
  obtain ⟨found, hf⟩ := Files.find_of_read hr
  unfold makeFolder
  split
  · rfl
  · rfl
  · rename_i parent hne hp
    have hparent : parent.bytes ≠ [] := fun hempty => hne (congrArg FilePath.mk hempty)
    rw [Files.makeFolders_of_find hw hf hp hparent]

theorem working_makeFolder (hw : files.Working) (hm : makeFolder files path = .ok made) :
    made.Working := by
  unfold makeFolder at hm
  split at hm
  · cases hm
    exact hw
  · cases hm
    exact hw
  · split at hm
    · rename_i hfolders
      cases hm
      exact Files.working_makeFoldersFrom hw hfolders
    · cases hm

/-- An append that succeeds adds its entry to what the log holds once its folder is there. -/
theorem read_append (hw : files.Working) (h : append files path result time = .ok files') :
    files'.Working ∧ ∃ made, makeFolder files path = .ok made ∧
      files'.read path = .ok (made.contents path ++ added (result, time)) := by
  unfold append at h
  cases hm : makeFolder files path with
  | error e => simp [hm] at h
  | ok made =>
    rw [hm] at h
    dsimp only at h
    split at h
    · rename_i appended ha
      cases h
      obtain ⟨hworking, hread⟩ := Files.read_append (working_makeFolder hw hm) ha
      exact ⟨hworking, made, rfl, hread⟩
    · cases h

/-- A log that can be read can be appended to. -/
theorem append_of_read (e : String × Moment) (hw : files.Working)
    (hr : files.read path = .ok old) :
    ∃ files', append files path e.1 e.2 = .ok files' ∧ files'.Working ∧
      files'.read path = .ok (old ++ added e) := by
  have hmade := makeFolder_of_read hw hr
  obtain ⟨files', ha⟩ : ∃ files',
      files.append path (Text.encode (entry e.1 e.2 ++ "\n")) = .ok files' :=
    Files.append_of_read hr
  have happend : append files path e.1 e.2 = .ok files' := by
    rw [append, hmade]
    dsimp only
    rw [ha]
  obtain ⟨hworking, made, hm, hread⟩ := read_append hw happend
  rw [hmade] at hm
  cases hm
  rw [Files.contents_of_read hr] at hread
  exact ⟨files', happend, hworking, hread⟩

theorem appendAll_of_read (hw : files.Working) (hr : files.read path = .ok old) :
    ∃ files', appendAll files path entries = .ok files' ∧ files'.Working ∧
      files'.read path = .ok (old ++ entries.flatMap added) := by
  induction entries generalizing files old with
  | nil => exact ⟨files, rfl, hw, by simpa using hr⟩
  | cons e entries ih =>
    obtain ⟨next, hnext, hworking, hread⟩ := append_of_read e hw hr
    obtain ⟨last, hlast, hend⟩ := ih hworking hread
    refine ⟨last, ?_, hend.1, ?_⟩
    · rw [appendAll, List.foldlM_cons, hnext]
      exact hlast
    · rw [hend.2, List.flatMap_cons, List.append_assoc]

theorem split_line (line after : Text.Bytes) :
    Text.split lineFeed [] (line ++ [lineFeed] ++ after) =
      Text.split lineFeed [] line ++ Text.split lineFeed [] after := by
  rw [List.append_assoc, List.singleton_append]
  exact Text.split_append List.not_mem_nil

theorem lines_line (line : Text.Bytes) :
    lines (line ++ [lineFeed]) = Text.split lineFeed [] line := by
  have hline := split_line line []
  rw [List.append_nil] at hline
  rw [lines, hline]
  simp [Text.split]

theorem lines_append (ho : Ended old) : lines (old ++ rest) = lines old ++ lines rest := by
  rcases ho with rfl | hlast
  · simp [lines, Text.split]
  · obtain ⟨before, rfl⟩ := List.getLast?_eq_some_iff.mp hlast
    rw [lines_line, lines, split_line, List.dropLast_append_of_ne_nil Text.split_ne_nil]
    rfl

theorem added_eq (e : String × Moment) :
    added e = Text.encode (entry e.1 e.2) ++ [lineFeed] := by
  rw [added, Text.encode_append]
  rfl

theorem lines_added : lines (entries.flatMap added) =
    (entries.map fun e => Text.encode (entry e.1 e.2)).flatMap (Text.split lineFeed []) := by
  induction entries with
  | nil => simp [lines, Text.split]
  | cons e entries ih =>
    have hended : Ended (added e) := .inr (by simp [added_eq])
    rw [List.flatMap_cons, lines_append hended, added_eq, lines_line, ih, List.map_cons,
      List.flatMap_cons]

theorem not_mem_opening {c : Char} (hc : ¬Calendar.Plain c) (hb : c ≠ '[') :
    c ∉ (opening time).toList := by
  intro hm
  simp only [opening, String.toList_append, List.mem_append] at hm
  rcases hm with ((hm | hm) | hm) | hm
  · exact hb (List.mem_singleton.mp hm)
  · exact hc (Calendar.written_dateText time c hm)
  · rw [List.mem_singleton.mp hm] at hc
    exact hc (by decide)
  · exact hc (Calendar.written_timeText time c hm)

/-- An entry is one line just if its result is. -/
theorem free_entry_iff : ¬[lineFeed] <:+: Text.encode (entry result time) ↔
    '\n' ∉ result.toList := by
  have hopening : '\n' ∉ (opening time).toList := not_mem_opening (by decide) (by decide)
  have hentry : '\n' ∈ (entry result time).toList ↔ '\n' ∈ result.toList := by
    change '\n' ∈ (opening time ++ "] " ++ result).toList ↔ _
    simp [hopening]
  rw [List.singleton_infix_iff, ← hentry, ← Text.mem_utf8 (by decide)]
  rfl

theorem lines_eq_iff (ho : Ended old) :
    lines (old ++ entries.flatMap added) =
        lines old ++ entries.map (fun e => Text.encode (entry e.1 e.2)) ↔
      ∀ e ∈ entries, '\n' ∉ e.1.toList := by
  have hfree : (∀ e ∈ entries, '\n' ∉ e.1.toList) ↔
      ∀ part ∈ entries.map (fun e => Text.encode (entry e.1 e.2)), ¬[lineFeed] <:+: part := by
    rw [List.forall_mem_map]
    exact forall₂_congr fun e _ => free_entry_iff.symm
  rw [lines_append ho, lines_added, List.append_cancel_left_eq, hfree]
  constructor
  · intro h
    exact (Text.length_flatMap_split_iff List.not_mem_nil).mp (congrArg List.length h)
  · exact Text.flatMap_split_of_free

theorem resultOf_entry : resultOf (Text.encode (entry result time)) = some result := by
  have hopening : bracket ∉ Text.encode (opening time) := by
    have hchars : ']' ∉ (opening time).toList := not_mem_opening (by decide) (by decide)
    intro hm
    exact hchars ((Text.mem_utf8 (d := ']') (by decide)).mp hm)
  have hentry : Text.encode (entry result time) =
      Text.encode (opening time) ++ bracket :: 32 :: Text.encode result := by
    change Text.encode (opening time ++ "] " ++ result) = _
    rw [Text.encode_append, Text.encode_append, List.append_assoc]
    rfl
  rw [resultOf, hentry, Text.dropWhile_mark hopening]
  exact Text.decode_encode

/-- A log that can be read takes every entry, and holds afterwards what it held before and the
entries in order; a log that an append has made begins with that entry. The new lines are the
results behind date and time, one by one, just if no result has a line feed in it, and the results
can then be read back from them. -/
theorem one_line_per_result (path : FilePath) (hw : files.Working) :
    (∀ old entries, files.read path = .ok old →
      ∃ files', appendAll files path entries = .ok files' ∧ files'.Working ∧
        files'.read path = .ok (old ++ entries.flatMap added)) ∧
    (∀ result time files', append files path result time = .ok files' → files'.Working ∧
      ∃ made, makeFolder files path = .ok made ∧
        files'.read path = .ok (made.contents path ++ added (result, time))) ∧
    ∀ (old : Text.Bytes) (entries : List (String × Moment)), Ended old →
      (lines (old ++ entries.flatMap added) = lines old ++ entries.map (fun (result, time) =>
          Text.encode ("[" ++ Calendar.dateText time ++ " " ++ Calendar.timeText time ++ "] " ++
            result)) ↔
        ∀ e ∈ entries, '\n' ∉ e.1.toList) ∧
      ((∀ e ∈ entries, '\n' ∉ e.1.toList) →
        ((lines (old ++ entries.flatMap added)).drop (lines old).length).map resultOf =
          entries.map (some ·.1)) := by
  refine ⟨fun _ _ hr => appendAll_of_read hw hr, fun _ _ _ h => read_append hw h, ?_⟩
  intro old entries ho
  refine ⟨lines_eq_iff ho, fun hfree => ?_⟩
  rw [(lines_eq_iff ho).mpr hfree, List.drop_left, List.map_map]
  refine List.map_congr_left fun e _ => ?_
  rw [Function.comp_apply, resultOf_entry]

/-- A folder in which the log is made. -/
def emptyFolder : Files := ⟨.empty, []⟩

theorem makeFolder_emptyFolder : makeFolder emptyFolder "log.txt" = .ok emptyFolder := by
  have hparent : FilePath.parent? "log.txt" = some ⟨[]⟩ := by decide
  simp [makeFolder, hparent]

theorem find_emptyFolder : emptyFolder.find "log.txt" = .ok (.absent [] "log.txt") :=
  Files.find_name (by decide) (.absent (by decide) rfl)

theorem read_emptyFolder (result : String) (time : Moment) :
    ∃ files', append emptyFolder "log.txt" result time = .ok files' ∧
      files'.read "log.txt" = .ok (added (result, time)) := by
  have hw : emptyFolder.Working := ⟨⟨[], rfl⟩, nofun⟩
  have happend : append emptyFolder "log.txt" result time =
      .ok (emptyFolder.set (some (.file (added (result, time)))) ["log.txt"]) := by
    simp [append, makeFolder_emptyFolder, Files.append, find_emptyFolder, added]
  obtain ⟨-, made, hm, hread⟩ := read_append hw happend
  rw [makeFolder_emptyFolder] at hm
  cases hm
  have hcontents : emptyFolder.contents "log.txt" = [] := by
    simp [Files.contents, Files.read, Files.resolve, find_emptyFolder, Except.toOption]
  rw [hcontents, List.nil_append] at hread
  exact ⟨_, happend, hread⟩

/-- A log that is made and then grows. -/
theorem one_line_per_result_made : ∃ files', files'.Working ∧
    files'.read "log.txt" = .ok (Text.encode "[Thursday, January 1, 1970 00:00:00] a\n") ∧
    ∃ last, appendAll files' "log.txt" [("b", ⟨1, 0⟩)] = .ok last ∧
      last.read "log.txt" = .ok (Text.encode
        "[Thursday, January 1, 1970 00:00:00] a\n[Thursday, January 1, 1970 00:00:01] b\n") := by
  have hw : emptyFolder.Working := ⟨⟨[], rfl⟩, nofun⟩
  have hfirst : added ("a", ⟨0, 0⟩) =
      Text.encode "[Thursday, January 1, 1970 00:00:00] a\n" := by decide +kernel
  have hsecond : added ("b", ⟨1, 0⟩) =
      Text.encode "[Thursday, January 1, 1970 00:00:01] b\n" := by decide +kernel
  obtain ⟨files', happend, hread⟩ := read_emptyFolder "a" ⟨0, 0⟩
  obtain ⟨hworking, -⟩ := (one_line_per_result "log.txt" hw).2.1 "a" ⟨0, 0⟩ files' happend
  obtain ⟨last, hlast, -, hend⟩ :=
    (one_line_per_result "log.txt" hworking).1 (added ("a", ⟨0, 0⟩)) [("b", ⟨1, 0⟩)] hread
  rw [List.flatMap_singleton, hfirst, hsecond, ← Text.encode_append] at hend
  rw [hfirst] at hread
  exact ⟨files', hworking, hread, last, hlast, hend⟩

/-- A result with a line feed in it gives two lines. -/
theorem line_feed_splits_entry : ∃ files' log,
    append emptyFolder "log.txt" "a\nb" ⟨0, 0⟩ = .ok files' ∧ files'.read "log.txt" = .ok log ∧
    log = Text.encode "[Thursday, January 1, 1970 00:00:00] a\nb\n" ∧
    lines log = [Text.encode "[Thursday, January 1, 1970 00:00:00] a", Text.encode "b"] := by
  obtain ⟨files', happend, hread⟩ := read_emptyFolder "a\nb" ⟨0, 0⟩
  exact ⟨files', _, happend, hread, by decide +kernel, by decide +kernel⟩

end LinkShot.UploadLog
