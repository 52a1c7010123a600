/-
This file proves that the beginning of a text that is logged is the longest one within the limit: a cut at
the limit that goes back byte by byte until it parts two characters takes as many characters as fit.
-/
import Mathlib.Data.List.Basic
import Mathlib.Data.String.Basic
import Mathlib.Order.Bounds.Basic
import QueryTree.Settings

namespace QueryTree

/-- The characters of a text as long as they fit into so many bytes in UTF-8. -/
def takeBytes : (limit : Nat) → List Char → List Char
  | _, [] => []
  | limit, character :: rest =>
      if character.utf8Size ≤ limit then character :: takeBytes (limit - character.utf8Size) rest
      else []

theorem takeBytes_prefix (limit : Nat) (text : List Char) : takeBytes limit text <+: text := by
  induction text generalizing limit with
  | nil => exact List.prefix_rfl
  | cons character rest ih =>
    rw [takeBytes]
    split
    · exact List.cons_prefix_cons.mpr ⟨rfl, ih _⟩
    · exact List.nil_prefix

theorem takeBytes_size (limit : Nat) (text : List Char) :
    (String.ofList (takeBytes limit text)).utf8ByteSize ≤ limit := by
  rw [String.utf8ByteSize_ofList]
  induction text generalizing limit with
  | nil => exact Nat.zero_le limit
  | cons character rest ih =>
    rw [takeBytes]
    split
    next fits =>
      have others := ih (limit - character.utf8Size)
      rw [String.utf8Len_cons]
      omega
    next => exact Nat.zero_le limit

/-- Every beginning within the limit is a beginning of the one that is taken. -/
theorem prefix_takeBytes {limit : Nat} {front text : List Char} (begins : front <+: text)
    (fits : String.utf8Len front ≤ limit) : front <+: takeBytes limit text := by
  induction text generalizing limit front with
  | nil =>
    rw [List.prefix_nil.mp begins]
    exact List.nil_prefix
  | cons character rest ih =>
    cases front with
    | nil => exact List.nil_prefix
    | cons first others =>
      obtain ⟨rfl, follows⟩ := List.cons_prefix_cons.mp begins
      rw [String.utf8Len_cons] at fits
      rw [takeBytes, if_pos (by omega)]
      exact List.cons_prefix_cons.mpr ⟨rfl, ih follows (by omega)⟩

/-- What is lost against the limit is part of one character, which has at most four bytes. -/
theorem takeBytes_loss {limit : Nat} {text : List Char} (longer : limit < String.utf8Len text) :
    limit ≤ String.utf8Len (takeBytes limit text) + 3 := by
  induction text generalizing limit with
  | nil => cases longer
  | cons character rest ih =>
    rw [String.utf8Len_cons] at longer
    rw [takeBytes]
    split
    next =>
      have others := @ih (limit - character.utf8Size) (by omega)
      rw [String.utf8Len_cons]
      omega
    next =>
      have width := character.utf8Size_le_four
      omega

/-- A beginning of a text ends between two characters, or at an end of the text. -/
theorem isValid_of_prefix {front text : List Char} (begins : front <+: text) :
    (String.Pos.Raw.mk (String.utf8Len front)).IsValid (String.ofList text) := by
  obtain ⟨rest, rfl⟩ := begins
  rw [String.Pos.Raw.isValid_iff_exists_append]
  refine ⟨String.ofList front, String.ofList rest, String.ofList_append, ?_⟩
  rw [String.rawEndPos, String.utf8ByteSize_ofList]

/-- Up to a place between two characters stands a beginning of the text, of as many bytes. -/
theorem prefix_of_position {text : String} (position : text.Pos) :
    (text.sliceTo position).copy.toList <+: text.toList ∧
      String.utf8Len (text.sliceTo position).copy.toList = position.offset.byteIdx := by
  have parts := position.splits
  constructor
  · exact ⟨(text.sliceFrom position).copy.toList, by rw [← String.toList_append, ← parts.eq_append]⟩
  · rw [parts.offset_eq_rawEndPos, ← String.utf8ByteSize_ofList, String.ofList_toList]
    rfl

/-- A beginning of as many bytes is the whole text. -/
theorem eq_of_prefix_of_utf8Len {front text : List Char} (begins : front <+: text)
    (size : String.utf8Len front = String.utf8Len text) : front = text := by
  obtain ⟨rest, rfl⟩ := begins
  rw [String.utf8Len_append] at size
  have nothing : rest = [] := String.utf8Len_eq_zero.mp (by omega)
  rw [nothing, List.append_nil]

/-- No place between two characters that the limit reaches stands behind the beginning that is taken. -/
theorem takeBytes_greatest (limit : Nat) (text : String) :
    IsGreatest {cut : Nat | cut ≤ limit ∧ (String.Pos.Raw.mk cut).IsValid text}
      (String.utf8Len (takeBytes limit text.toList)) := by
  constructor
  · have size := takeBytes_size limit text.toList
    have begins := takeBytes_prefix limit text.toList
    have valid := isValid_of_prefix begins
    rw [String.utf8ByteSize_ofList] at size
    rw [String.ofList_toList] at valid
    exact ⟨size, valid⟩
  · rintro cut ⟨within, valid⟩
    obtain ⟨begins, size⟩ := prefix_of_position ⟨⟨cut⟩, valid⟩
    exact size.symm.trans_le (String.utf8Len_le_of_prefix (prefix_takeBytes begins (size.trans_le within)))

/-- A cut that goes back stops at the last place between two characters, by induction on the bytes. -/
theorem cutBack_greatest (text : String) (byte : Nat) :
    IsGreatest {cut : Nat | cut ≤ byte ∧ (String.Pos.Raw.mk cut).IsValid text}
      (cutBack text byte).offset.byteIdx := by
  induction byte with
  | zero => exact ⟨⟨Nat.le_refl 0, text.startPos.isValid⟩, fun cut reached => reached.1⟩
  | succ byte ih =>
    rw [cutBack]
    split
    next valid => exact ⟨⟨Nat.le_refl _, valid⟩, fun cut reached => reached.1⟩
    next inside =>
      obtain ⟨⟨within, valid⟩, greatest⟩ := ih
      refine ⟨⟨Nat.le_succ_of_le within, valid⟩, fun cut ⟨reached, stands⟩ => ?_⟩
      have before : cut ≠ byte + 1 := fun same => inside (same ▸ stands)
      exact greatest ⟨by omega, stands⟩

/-- Up to the last place between two characters that the limit reaches stand the characters that fit. -/
theorem sliceTo_takeBytes {limit : Nat} {text : String} {position : text.Pos}
    (last : IsGreatest {cut : Nat | cut ≤ limit ∧ (String.Pos.Raw.mk cut).IsValid text}
      position.offset.byteIdx) :
    (text.sliceTo position).copy = String.ofList (takeBytes limit text.toList) := by
  obtain ⟨cut, size⟩ := prefix_of_position position
  have inside := prefix_takeBytes cut (size.trans_le last.1.1)
  rw [← String.toList_inj, String.toList_ofList]
  exact eq_of_prefix_of_utf8Len inside (size.trans (last.unique (takeBytes_greatest limit text)))

/-- A text within the limit is taken as a whole. -/
theorem takeBytes_whole {limit : Nat} {text : String} (fits : text.utf8ByteSize ≤ limit) :
    String.ofList (takeBytes limit text.toList) = text := by
  rw [← String.ofList_toList (s := text), String.utf8ByteSize_ofList] at fits
  have whole := prefix_takeBytes (List.prefix_refl text.toList) fits
  have taken := takeBytes_prefix limit text.toList
  have same := taken.eq_of_length_le whole.length_le
  rw [same, String.ofList_toList]

/-- The beginning that the cut takes holds the characters that fit. -/
theorem truncated_eq (limit : Nat) (text : String) :
    truncated limit text = String.ofList (takeBytes limit text.toList) := by
  unfold truncated
  split
  next fits => exact (takeBytes_whole fits).symm
  next => exact sliceTo_takeBytes (cutBack_greatest text limit)

/-- No place between two characters stands behind the last one up to the limit. -/
theorem posLE_greatest (limit : Nat) (text : String) :
    IsGreatest {cut : Nat | cut ≤ limit ∧ (String.Pos.Raw.mk cut).IsValid text}
      (text.posLE ⟨limit⟩).offset.byteIdx :=
  ⟨⟨String.offset_posLE_le, (text.posLE ⟨limit⟩).isValid⟩, fun cut ⟨reached, valid⟩ =>
    String.le_posLE_iff (p := ⟨⟨cut⟩, valid⟩).mpr reached⟩

/-- The beginning of a text that is taken within a limit: its characters as long as they fit. The cut that
goes back from the limit byte by byte stops between two characters, and the text up to there is taken;
there is no such place between it and the limit. A text within the limit is taken as a whole, and of a
longer one less than a character is lost. -/
theorem takeBytes_longest (limit : Nat) (text : String) :
    let taken := truncated limit text
    taken = String.ofList (takeBytes limit text.toList) ∧
      (text.sliceTo (text.posLE ⟨limit⟩)).copy = taken ∧
      IsGreatest {cut : Nat | cut ≤ limit ∧ (String.Pos.Raw.mk cut).IsValid text}
        taken.utf8ByteSize ∧
      (∀ front : String, front.toList <+: text.toList → front.utf8ByteSize ≤ limit →
        front.toList <+: taken.toList) ∧
      (text.utf8ByteSize ≤ limit → taken = text) ∧
      (limit < text.utf8ByteSize → limit ≤ taken.utf8ByteSize + 3) := by
  intro taken
  have same : taken = String.ofList (takeBytes limit text.toList) := truncated_eq limit text
  have sizes (part : String) : part.utf8ByteSize = String.utf8Len part.toList := by
    rw [← String.utf8ByteSize_ofList, String.ofList_toList]
  have listed : taken.toList = takeBytes limit text.toList := by rw [same, String.toList_ofList]
  have slice := (sliceTo_takeBytes (posLE_greatest limit text)).trans same.symm
  have whole (fits : text.utf8ByteSize ≤ limit) : taken = text := same.trans (takeBytes_whole fits)
  refine ⟨same, slice, ?_, ?_, whole, ?_⟩
  all_goals simp only [sizes, listed]
  · exact takeBytes_greatest limit text
  · exact fun front => prefix_takeBytes
  · exact takeBytes_loss

example : truncated 4 "aéé" = "aé" := by decide

end QueryTree
