import LinkShot.Proofs.Text.Separator
import LinkShot.Proofs.Text.Utf8
import LinkShot.Request.Multipart

/-!
A reader of multipart bodies. It cuts a body at the delimiter, and contents without the delimiter
come back as the pieces.
-/
namespace LinkShot.Request

open Text (Bytes encode decode? split)

variable {name : String} {bs : Bytes} {contents : List Bytes}

/-- A part of a form as its reader sees it. -/
inductive Part where
  | field (name value : String)
  | file (name filename : String) (content : Bytes)
  deriving DecidableEq, Repr

def quote : UInt8 := 34

def nameLabel : Bytes := encode "\r\nContent-Disposition: form-data; name="

def filenameLabel : Bytes := encode "; filename="

def typeLabel : Bytes := encode "\r\nContent-Type: application/octet-stream"

def blankLine : Bytes := encode "\r\n\r\n"

/-- What follows the last delimiter. -/
def ending : Bytes := encode "--\r\n"

/-- The text between two quotes, and what follows them. -/
def quoted? : Bytes → Option (String × Bytes)
  | [] => none
  | b :: rest =>
    if b = quote then
      match rest.dropWhile (· ≠ quote) with
      | [] => none
      | _ :: after => (decode? (rest.takeWhile (· ≠ quote))).map (·, after)
    else none

def readPart (bs : Bytes) : Option Part := do
  let (name, rest) ← quoted? (← bs.dropPrefix? nameLabel)
  match rest.dropPrefix? blankLine with
  | some content => return .field name (← decode? content)
  | none =>
    let (filename, rest) ← quoted? (← rest.dropPrefix? filenameLabel)
    return .file name filename (← rest.dropPrefix? (typeLabel ++ blankLine))

/-- The parts of a form, up to the one ending. -/
def readParts : List Bytes → Option (List Part)
  | [] => none
  | [last] => if last = ending then some [] else none
  | part :: rest => do return (← readPart part) :: (← readParts rest)

def read (body : Bytes) : Option (List Part) :=
  if body = [] then some []
  else match split 13 delimiter.tail body with
    | [] :: rest => readParts rest
    | _ => none

/-- The closing delimiter stands at the end and nowhere else. -/
def ClosedOnce (body : Bytes) : Prop :=
  ∃ front, body = front ++ closing ∧
    ∀ before after, body = before ++ (delimiter ++ encode "--") ++ after → before = front

theorem cr_once : 13 ∉ delimiter.tail := by decide

theorem quote_not_mem : quote ∉ delimiter := by decide

theorem free_of_short (h : bs.length < delimiter.length) : ¬delimiter <:+: bs :=
  fun hi => absurd hi.length_le (by omega)

theorem free_nil : ¬delimiter <:+: [] := free_of_short (by decide)

theorem quoted?_encode (h : '"' ∉ name.toList) :
    quoted? (quote :: (encode name ++ quote :: bs)) = some (name, bs) := by
  have hq : quote ∉ encode name :=
    fun hm => h ((Text.mem_utf8 (show '"'.toNat < 0x80 by decide)).mp hm)
  rw [quoted?, if_pos rfl, Text.dropWhile_mark hq, Text.takeWhile_mark hq]
  simp

theorem dropPrefix?_append {front : Bytes} : (front ++ bs).dropPrefix? front = some bs :=
  List.dropPrefix?_append_of_beq bs (beq_self_eq_true front)

/-- The parts with these contents, and the ending. -/
def frame (contents : List Bytes) : Bytes := (contents ++ [ending]).flatMap (delimiter ++ ·)

theorem frame_eq : frame contents = contents.flatMap (delimiter ++ ·) ++ closing := by
  simp [frame, closing, ending]

/-- The pieces that a content is cut into. -/
def piecesOf (content : Bytes) : List Bytes := split 13 delimiter.tail content

theorem split_frame :
    split 13 delimiter.tail (frame contents) = [] :: (contents.flatMap piecesOf ++ [ending]) := by
  have hcut : split 13 delimiter.tail ([] ++ frame contents) =
      split 13 delimiter.tail [] ++ (contents ++ [ending]).flatMap piecesOf :=
    Text.split_flatMap cr_once
  have hending : piecesOf ending = [ending] := Text.split_of_free (free_of_short (by decide))
  have hempty : split 13 delimiter.tail [] = [[]] := Text.split_of_free free_nil
  rw [List.nil_append, hempty, List.flatMap_append, List.flatMap_singleton, hending] at hcut
  exact hcut

theorem pieces_of_free (h : ∀ content ∈ contents, ¬delimiter <:+: content) :
    contents.flatMap piecesOf = contents :=
  Text.flatMap_split_of_free h

theorem readParts_append : readParts (contents ++ [ending]) = contents.mapM readPart := by
  induction contents with
  | nil => rfl
  | cons content contents ih =>
    cases contents with
    | nil => simp [readParts]
    | cons next contents =>
      rw [List.mapM_cons, ← ih]
      rfl

/-- Contents are read by their pieces, which they themselves are when they are free. -/
theorem read_frame : read (frame contents) = (contents.flatMap piecesOf).mapM readPart := by
  have hne : frame contents ≠ [] := by
    rw [frame_eq]
    exact List.append_ne_nil_of_right_ne_nil _ (by decide)
  rw [read, if_neg hne, split_frame]
  exact readParts_append

/-- What follows a closing delimiter begins a piece of its own. -/
theorem split_dashes : ∃ piece rest,
    split 13 delimiter.tail (encode "--" ++ bs) = (encode "--" ++ piece) :: rest := by
  have hd : encode "--" ++ bs = 45 :: 45 :: bs := rfl
  cases hs : split 13 delimiter.tail bs with
  | nil => exact absurd hs Text.split_ne_nil
  | cons piece rest =>
    refine ⟨piece, rest, ?_⟩
    rw [hd, split, if_neg (by simp), split, if_neg (by simp), hs]
    rfl

theorem eq_of_append_last {α : Type} {xs ys zs : List α} {x y : α}
    (h : xs ++ [x] = ys ++ y :: zs) (hy : y ∉ xs) : ys = xs := by
  rcases List.append_eq_append_iff.mp h with ⟨more, rfl, hr⟩ | ⟨more, rfl, hr⟩
  · cases more with
    | nil => simp
    | cons c more =>
      have := congrArg List.length hr
      simp at this
  · cases more with
    | nil => simp
    | cons c more =>
      rw [List.cons_append, List.cons.injEq] at hr
      exact absurd (by simp [hr.1]) hy

theorem closedOnce_frame (h : ∀ content ∈ contents, ¬delimiter <:+: content)
    (hd : ∀ content ∈ contents, ¬encode "--" <+: content) : ClosedOnce (frame contents) := by
  refine ⟨contents.flatMap (delimiter ++ ·), frame_eq, fun before after hb => ?_⟩
  obtain ⟨piece, rest, hpiece⟩ := @split_dashes after
  have hfrom : split 13 delimiter.tail (frame contents) = [] :: (contents ++ [ending]) := by
    rw [split_frame, pieces_of_free h]
  have hs : ([] :: contents) ++ [ending] =
      split 13 delimiter.tail before ++ (encode "--" ++ piece) :: rest := by
    rw [List.cons_append, ← hfrom, hb, ← hpiece, ← Text.split_append cr_once, List.append_assoc]
    rfl
  have hpart : encode "--" ++ piece ∉ [] :: contents := by
    intro hm
    rcases List.mem_cons.mp hm with he | hm
    · cases he
    · exact hd _ hm (List.prefix_append _ _)
  have hfront : split 13 delimiter.tail (contents.flatMap (delimiter ++ ·)) = [] :: contents :=
    Text.split_join cr_once free_nil h
  rw [← Text.split_inj, hfront]
  exact eq_of_append_last hs hpart

end LinkShot.Request
